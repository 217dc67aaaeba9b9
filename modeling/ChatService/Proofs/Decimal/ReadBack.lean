import ChatService.Decimal.Notation
import Mathlib

/-!
# Reading a double back

A finite double is its sign and its fields. What lies in the interval of a double rounds to
it, and the shortest decimal lies there; so every way of writing a double that keeps to the
interval reads back as the double.
-/

namespace ChatService

namespace Binary64

open Float.Model Float.Model.UnpackedFloat

/-- The bits of a finite double are those that it was made from. -/
theorem toBits_ofBits {a : UInt64} (finite : a.toNat % signWeight < infinityFields) : (Float.ofBits a).toBits = a := by
  have exponent : @unpackExponent .binary64 a.toBitVec ≠ -1#_ := by
    intro all
    have field : @unpackExponent .binary64 a.toBitVec = a.toBitVec.extractLsb' 52 11 := rfl
    have value : a.toNat / 2 ^ 52 % 2 ^ 11 = 2047 := by
      have parts := congrArg BitVec.toNat (field.symm.trans all)
      rwa [BitVec.extractLsb'_toNat, Nat.shiftRight_eq_div_pow] at parts
    simp only [infinityFields, fractions, signWeight] at finite
    omega
  have number : ¬ @isNaNBits .binary64 a.toBitVec = true := by
    rw [isNaNBits, decide_eq_true_eq]
    exact fun both => exponent both.1
  change UInt64.ofBitVec (UnpackedFloat.pack .binary64 (UnpackedFloat.unpack .binary64 a.toBitVec)) = a
  rw [pack_unpack, if_neg number]

variable {x : Float} {negative : Bool} {bits : Nat}

theorem isFinite_iff : isFinite x = true ↔ fieldBits x < infinityFields := by
  simp [isFinite]

theorem toNat_fields (small : bits < infinityFields) :
    ((if negative then signWeight + bits else bits).toUInt64).toNat = if negative then signWeight + bits else bits := by
  rw [Nat.toUInt64_eq, UInt64.toNat_ofNat']
  simp only [infinityFields, fractions, signWeight] at small ⊢
  split <;> omega

theorem toBits_ofFields (small : bits < infinityFields) :
    (ofFields negative bits).toBits.toNat = if negative then signWeight + bits else bits := by
  rw [ofFields, toBits_ofBits]
  · exact toNat_fields small
  · rw [toNat_fields small]
    simp only [infinityFields, fractions, signWeight] at small ⊢
    split <;> omega

theorem fieldBits_ofFields (small : bits < infinityFields) : fieldBits (ofFields negative bits) = bits := by
  rw [fieldBits, toBits_ofFields small]
  simp only [infinityFields, fractions, signWeight] at small ⊢
  split <;> omega

theorem isNegative_ofFields (small : bits < infinityFields) : isNegative (ofFields negative bits) = negative := by
  rw [isNegative, toBits_ofFields small]
  simp only [infinityFields, fractions, signWeight] at small ⊢
  cases negative <;> simp
  omega

theorem isFinite_ofFields (small : bits < infinityFields) : isFinite (ofFields negative bits) = true := by
  rw [isFinite_iff, fieldBits_ofFields small]
  exact small

/-- The bits are the sign and the fields. -/
theorem toNat_toBits (x : Float) : x.toBits.toNat = if isNegative x then signWeight + fieldBits x else fieldBits x := by
  have size : x.toBits.toNat < 2 ^ 64 := x.toBits.toNat_lt
  by_cases sign : signWeight ≤ x.toBits.toNat
  · rw [show isNegative x = true from decide_eq_true sign, if_pos rfl, fieldBits]
    simp only [signWeight] at sign ⊢
    omega
  · rw [show isNegative x = false from decide_eq_false sign, if_neg (by simp), fieldBits]
    simp only [signWeight] at sign ⊢
    omega

/-- A finite double is its sign and its fields. -/
theorem ofFields_fieldBits (finite : isFinite x) : ofFields (isNegative x) (fieldBits x) = x := by
  apply Float.toBits_inj.1
  apply UInt64.toNat_inj.1
  rw [toBits_ofFields (isFinite_iff.1 finite), toNat_toBits]

/-! ## Rounding -/

/-- The whole number that a fraction lies within a half of, if it is even where that half is reached. -/
theorem roundHalfEven_eq {num den k : Nat} (positive : 0 < den) (low : 2 * (k * den) ≤ 2 * num + den)
    (high : 2 * num ≤ 2 * (k * den) + den) (even_low : 2 * (k * den) = 2 * num + den → k % 2 = 0)
    (even_high : 2 * num = 2 * (k * den) + den → k % 2 = 0) : roundHalfEven num den = k := by
  have whole : den * (num / den) + num % den = num := Nat.div_add_mod num den
  have rest : num % den < den := Nat.mod_lt num positive
  rw [Nat.mul_comm] at whole
  have near : k = num / den ∨ k = num / den + 1 := by
    have above : k * den < (num / den + 2) * den := by
      rw [Nat.add_mul]
      omega
    have below : num / den * den < (k + 1) * den := by
      rw [Nat.add_mul]
      omega
    have := Nat.lt_of_mul_lt_mul_right above
    have := Nat.lt_of_mul_lt_mul_right below
    omega
  simp only [roundHalfEven]
  rcases near with same | next
  · rw [← same] at whole ⊢
    rw [if_neg]
    omega
  · have product : k * den = num / den * den + den := by rw [next, Nat.add_mul, Nat.one_mul]
    rw [if_pos, ← next]
    omega

theorem significand_of_lt (small : fieldBits x < fractions) : significand x = fieldBits x := if_pos small

theorem significand_of_le (large : fractions ≤ fieldBits x) :
    significand x = fractions + fieldBits x % fractions := if_neg (Nat.not_lt.2 large)

theorem fieldBits_eq (x : Float) : fieldBits x = spacing x * fractions + significand x := by
  rcases Nat.lt_or_ge (fieldBits x) fractions with small | large
  · rw [significand_of_lt small, spacing, Nat.div_eq_of_lt small]
    omega
  · rw [significand_of_le large, spacing]
    simp only [fractions] at large ⊢
    omega

theorem significand_lt (x : Float) : significand x < 2 * fractions := by
  rcases Nat.lt_or_ge (fieldBits x) fractions with small | large
  · rw [significand_of_lt small]
    omega
  · rw [significand_of_le large]
    simp only [fractions]
    omega

theorem le_significand (spaced : 0 < spacing x) : fractions ≤ significand x := by
  rcases Nat.lt_or_ge (fieldBits x) fractions with small | large
  · simp [spacing, Nat.div_eq_of_lt small] at spaced
  · rw [significand_of_le large]
    omega

theorem units_eq (x : Float) : units x = significand x * 2 ^ spacing x := by
  rw [units, Nat.shiftLeft_eq]

theorem log2_div {num den k : Nat} (positive : 0 < den) (low : 2 ^ k * den ≤ num) (high : num < 2 ^ (k + 1) * den) :
    (num / den).log2 = k := by
  have low' : 2 ^ k ≤ num / den := (Nat.le_div_iff_mul_le positive).2 low
  have high' : num / den < 2 ^ (k + 1) := (Nat.div_lt_iff_lt_mul positive).2 high
  have nonzero : num / den ≠ 0 := Nat.ne_of_gt (Nat.lt_of_lt_of_le (Nat.two_pow_pos k) low')
  exact (Nat.log2_eq_iff nonzero).2 ⟨low', high'⟩

theorem log2_div_le {num den k : Nat} (positive : 0 < den) (high : num < 2 ^ (k + 1) * den) : (num / den).log2 ≤ k := by
  have high' : num / den < 2 ^ (k + 1) := (Nat.div_lt_iff_lt_mul positive).2 high
  by_cases zero : num / den = 0
  · simp [zero]
  · exact Nat.lt_succ_iff.1 ((Nat.log2_lt zero).2 high')

/-- The exponent and the fraction of what lies in the interval around `m * 2 ^ e`. -/
theorem rounded_bits {m e num den : Nat} (positive : 0 < den) (small : m < 2 * fractions)
    (normal : 0 < e → fractions ≤ m) (high : 2 * num ≤ 2 * (m * (2 ^ e * den)) + 2 ^ e * den)
    (even_high : 2 * num = 2 * (m * (2 ^ e * den)) + 2 ^ e * den → m % 2 = 0)
    (low : 2 * (m * (2 ^ e * den)) ≤ 2 * num + 2 ^ e * den)
    (even_low : 2 * (m * (2 ^ e * den)) = 2 * num + 2 ^ e * den → m % 2 = 0)
    (narrow : m = fractions → 0 < e → 4 * (m * (2 ^ e * den)) ≤ 4 * num + 2 ^ e * den) :
    ((num / den).log2 - 52) * fractions + roundHalfEven num (den <<< ((num / den).log2 - 52)) =
      e * fractions + m := by
  have step_pos : 0 < 2 ^ e * den := Nat.mul_pos (Nat.two_pow_pos e) positive
  have power (k : Nat) : 2 ^ (52 + k) * den = fractions * (2 ^ k * den) := by
    rw [Nat.pow_add, Nat.mul_assoc]
    rfl
  have top : (m + 1) * (2 ^ e * den) ≤ 2 * fractions * (2 ^ e * den) := Nat.mul_le_mul_right _ small
  rw [Nat.add_mul, Nat.one_mul, Nat.mul_assoc] at top
  have below : num < 2 ^ (52 + e + 1) * den := by
    rw [Nat.pow_succ, Nat.mul_right_comm, power]
    omega
  by_cases reached : e = 0 ∨ 2 ^ (52 + e) * den ≤ num
  · have room : (num / den).log2 - 52 = e := by
      rcases reached with rfl | above
      · have log := log2_div_le positive below
        omega
      · rw [log2_div positive above below]
        omega
    rw [room, Nat.shiftLeft_eq, Nat.mul_comm den, roundHalfEven_eq step_pos low high even_low even_high]
  · -- Only a power of two has numbers in its interval that are written with the exponent below.
    obtain ⟨spaced, under⟩ := not_or.1 reached
    obtain ⟨d, rfl⟩ : ∃ d, e = d + 1 := ⟨e - 1, by omega⟩
    rw [power] at under
    have same : m = fractions := by
      have least := normal (Nat.succ_pos d)
      by_contra other
      have next : (fractions + 1) * (2 ^ (d + 1) * den) ≤ m * (2 ^ (d + 1) * den) := Nat.mul_le_mul_right _ (by omega)
      rw [Nat.add_mul, Nat.one_mul] at next
      omega
    subst same
    have narrow := narrow rfl (Nat.succ_pos d)
    have twice : 2 ^ (d + 1) * den = 2 * (2 ^ d * den) := by
      rw [Nat.pow_succ]
      ring
    have product : fractions * (2 ^ (d + 1) * den) = 2 * (fractions * (2 ^ d * den)) := by
      rw [twice]
      ring
    have half_pos : 0 < 2 ^ d * den := Nat.mul_pos (Nat.two_pow_pos d) positive
    have half_le : 2 ^ d * den ≤ fractions * (2 ^ d * den) := Nat.le_mul_of_pos_left _ (by decide)
    have room : (num / den).log2 - 52 = d := by
      rw [log2_div (k := 52 + d) positive (by rw [power]; omega) (by rw [Nat.add_assoc, power]; omega)]
      omega
    have double : 2 * fractions * (2 ^ d * den) = 2 * (fractions * (2 ^ d * den)) := Nat.mul_assoc ..
    have rounded : roundHalfEven num (2 ^ d * den) = 2 * fractions :=
      roundHalfEven_eq half_pos (by omega) (by omega) (fun _ => by omega) (fun _ => by omega)
    rw [room, Nat.shiftLeft_eq, Nat.mul_comm den, rounded]
    ring

theorem holds_iff {t : Decimal.Target} {p q : Nat} :
    t.holds p q = true ↔ t.low * q ≤ p * t.den ∧ p * t.den ≤ t.high * q ∧
      (t.closed = false → t.low * q ≠ p * t.den ∧ p * t.den ≠ t.high * q) := by
  simp only [Decimal.Target.holds]
  cases t.closed with
  | true => simp
  | false =>
    simp only [Bool.false_eq_true, ↓reduceIte, Bool.and_eq_true, decide_eq_true_eq, forall_const]
    omega

/-- What lies in the interval of a number rounds to it. -/
theorem nearest_of_holds (finite : isFinite x) {p q : Nat} (positive : 0 < q)
    (holds : (Decimal.Target.ofFloat x).holds p q = true) :
    nearest negative p q = ofFields negative (fieldBits x) := by
  have scaled : p * (4 * unitsPerOne) = 4 * (p * unitsPerOne) := Nat.mul_left_comm ..
  have size : 4 * units x * q = 4 * (significand x * (2 ^ spacing x * q)) := by
    rw [units_eq]
    ring
  have wide : 2 * 2 ^ spacing x * q = 2 * (2 ^ spacing x * q) := Nat.mul_assoc ..
  have step_pos : 0 < 2 ^ spacing x * q := Nat.mul_pos (Nat.two_pow_pos _) positive
  obtain ⟨low, high, ends⟩ := holds_iff.1 holds
  simp only [Decimal.Target.ofFloat, Nat.one_shiftLeft, scaled, Nat.sub_mul, Nat.add_mul, size, wide, ite_mul,
    decide_eq_false_iff_not] at low high ends
  have bits : ((p * unitsPerOne / q).log2 - 52) * fractions +
      roundHalfEven (p * unitsPerOne) (q <<< ((p * unitsPerOne / q).log2 - 52)) = fieldBits x := by
    rw [fieldBits_eq]
    apply rounded_bits positive (significand_lt x) le_significand
    · omega
    · intro same
      by_contra odd
      have := (ends odd).2
      omega
    · split at low <;> omega
    · intro same
      by_contra odd
      have := (ends odd).1
      split at low
      · omega
      · next wide =>
        rw [if_neg wide] at this
        omega
    · intro same spaced
      rw [if_pos ⟨same, spaced⟩] at low
      omega
  have small := isFinite_iff.1 finite
  simp only [nearest, bits]
  rw [if_neg (by omega)]

end Binary64

namespace Decimal

theorem powerOfTen_snd_pos (e : Int) : 0 < (powerOfTen e).2 := by
  unfold powerOfTen
  split
  · exact Nat.one_pos
  · exact Nat.pow_pos (by decide)

theorem powerOfTen_fst_pos (e : Int) : 0 < (powerOfTen e).1 := by
  unfold powerOfTen
  split
  · exact Nat.pow_pos (by decide)
  · exact Nat.one_pos

/-- The place `a - b` as a fraction. -/
theorem powerOfTen_sub (a b : Nat) :
    (powerOfTen (a - b : Int)).1 * 10 ^ b = (powerOfTen (a - b : Int)).2 * 10 ^ a := by
  unfold powerOfTen
  split
  · next high =>
    obtain ⟨k, rfl⟩ : ∃ k, a = b + k := ⟨a - b, by omega⟩
    have places : ((b + k : Nat) - b : Int).toNat = k := by omega
    simp only [places, Nat.pow_eq]
    ring
  · next low =>
    obtain ⟨k, rfl⟩ : ∃ k, b = a + k := ⟨b - a, by omega⟩
    have places : (-(a - (a + k : Nat) : Int)).toNat = k := by omega
    simp only [places, Nat.pow_eq]
    ring

theorem le_leadingZeros {fuel num den : Nat} (enough : den ≤ 10 ^ fuel * num) :
    den ≤ 10 ^ leadingZeros fuel num den * num := by
  induction fuel generalizing num with
  | zero => simpa [leadingZeros] using enough
  | succ fuel ih =>
    unfold leadingZeros
    split
    · simpa
    · rw [Nat.pow_succ, Nat.mul_assoc] at enough ⊢
      exact ih enough

/-- The leading digit stands at most as high as the number. -/
theorem leadingExponent_le {num den : Nat} (positive : 0 < den) (enough : den ≤ 10 ^ 400 * num) (k : Nat) :
    den * (powerOfTen (leadingExponent num den - k)).1 * 10 ^ k ≤ num * (powerOfTen (leadingExponent num den - k)).2 := by
  unfold leadingExponent
  split
  · next large =>
    have length : 0 < (Nat.toDigits 10 (num / den)).length := Nat.length_toDigits_pos
    obtain ⟨a, same⟩ : ∃ a, (Nat.toDigits 10 (num / den)).length = a + 1 := ⟨_, (Nat.sub_add_cancel length).symm⟩
    have power : 10 ^ a ≤ num / den := by
      by_contra less
      rcases Nat.eq_zero_or_pos a with rfl | some
      · have : 0 < num / den := Nat.div_pos large positive
        omega
      · have := (Nat.length_toDigits_le_iff (by decide) some).2 (Nat.not_le.1 less)
        omega
    have size : 10 ^ a * den ≤ num := (Nat.le_div_iff_mul_le positive).1 power
    have shift : ((Nat.toDigits 10 (num / den)).length : Int) - 1 - k = a - k := by omega
    rw [shift, Nat.mul_assoc, powerOfTen_sub]
    calc den * ((powerOfTen (a - k)).2 * 10 ^ a) = 10 ^ a * den * (powerOfTen (a - k)).2 := by ring
      _ ≤ num * (powerOfTen (a - k)).2 := Nat.mul_le_mul_right _ size
  · have size := le_leadingZeros enough
    generalize leadingZeros 400 num den = z at size ⊢
    have shift : -(z : Int) - k = (0 : Nat) - (z + k : Nat) := by omega
    have place := powerOfTen_sub 0 (z + k)
    rw [shift]
    calc den * (powerOfTen ((0 : Nat) - (z + k : Nat))).1 * 10 ^ k
        ≤ 10 ^ z * num * (powerOfTen ((0 : Nat) - (z + k : Nat))).1 * 10 ^ k := by gcongr
      _ = num * ((powerOfTen ((0 : Nat) - (z + k : Nat))).1 * 10 ^ (z + k)) := by ring
      _ = num * (powerOfTen ((0 : Nat) - (z + k : Nat))).2 := by rw [place]; ring

/-! ## The search -/

variable {t : Target}

theorem multiple?_holds {e : Int} {k : Nat} (found : t.multiple? e = some k) :
    t.holds (k * (powerOfTen e).1) (powerOfTen e).2 = true := by
  simp only [Target.multiple?] at found
  split at found
  · next below above =>
    cases found
    split
    · exact below
    · split
      · exact above
      · split
        · exact below
        · exact above
  · next below _ =>
    cases found
    exact below
  · next _ above =>
    cases found
    exact above
  · cases found

/-- The search stops at a multiple in the interval if the last grid has one. -/
theorem search_holds {more : Nat} {e : Int} (last : t.multiple? (e - more) ≠ none) :
    t.holds ((t.search more e).digits * (powerOfTen (t.search more e).exponent).1)
      (powerOfTen (t.search more e).exponent).2 = true := by
  induction more generalizing e with
  | zero =>
    obtain ⟨k, found⟩ := Option.ne_none_iff_exists'.1 last
    rw [Nat.cast_zero, Int.sub_zero] at found
    simpa only [Target.search, found, Option.getD_some] using multiple?_holds found
  | succ more ih =>
    unfold Target.search
    split
    · next digits found => exact multiple?_holds found
    · apply ih
      rwa [Int.sub_sub, Int.add_comm 1, ← Nat.cast_succ]

/-- Strictly between the ends of the interval nothing depends on whether they belong to it. -/
theorem holds_of_lt {p q : Nat} (low : t.low * q < p * t.den) (high : p * t.den < t.high * q) :
    t.holds p q = true := by
  rw [Binary64.holds_iff]
  exact ⟨low.le, high.le, fun _ => ⟨low.ne, high.ne⟩⟩

/-- A grid whose steps are less than twice as wide as both halves of the interval has a point in it. -/
theorem multiple?_ne_none {e : Int} (positive : 0 < t.den)
    (fine_low : t.den * (powerOfTen e).1 < 2 * ((t.num - t.low) * (powerOfTen e).2))
    (fine_high : t.den * (powerOfTen e).1 < 2 * ((t.high - t.num) * (powerOfTen e).2)) :
    t.multiple? e ≠ none := by
  have step_pos : 0 < t.den * (powerOfTen e).1 := Nat.mul_pos positive (powerOfTen_fst_pos e)
  have whole := Nat.div_add_mod (t.num * (powerOfTen e).2) (t.den * (powerOfTen e).1)
  have rest := Nat.mod_lt (t.num * (powerOfTen e).2) step_pos
  rw [Nat.sub_mul] at fine_low fine_high
  simp only [Target.multiple?]
  generalize t.num * (powerOfTen e).2 / (t.den * (powerOfTen e).1) = b at whole ⊢
  generalize t.num * (powerOfTen e).2 % (t.den * (powerOfTen e).1) = r at whole rest ⊢
  have below : b * (powerOfTen e).1 * t.den = t.den * (powerOfTen e).1 * b := by ring
  have above : (b + 1) * (powerOfTen e).1 * t.den = t.den * (powerOfTen e).1 * b + t.den * (powerOfTen e).1 := by ring
  by_cases near : 2 * r ≤ t.den * (powerOfTen e).1
  · have hit : t.holds (b * (powerOfTen e).1) (powerOfTen e).2 = true := by
      apply holds_of_lt <;> omega
    cases other : t.holds ((b + 1) * (powerOfTen e).1) (powerOfTen e).2 <;> simp [hit]
  · have hit : t.holds ((b + 1) * (powerOfTen e).1) (powerOfTen e).2 = true := by
      apply holds_of_lt <;> omega
    cases other : t.holds (b * (powerOfTen e).1) (powerOfTen e).2 <;> simp [hit]

theorem one_shiftLeft_pos (k : Nat) : 0 < 1 <<< k := by
  rw [Nat.one_shiftLeft]
  exact Nat.two_pow_pos k

theorem one_shiftLeft_le {k n : Nat} (less : k ≤ 3 * n) : 1 <<< k ≤ 10 ^ n := by
  calc 1 <<< k = 2 ^ k := Nat.one_shiftLeft k
    _ ≤ 2 ^ (3 * n) := Nat.pow_le_pow_right (by decide) less
    _ = (2 ^ 3) ^ n := Nat.pow_mul 2 3 n
    _ ≤ 10 ^ n := Nat.pow_le_pow_left (by decide) n

section

variable {x : Float} (nonzero : Binary64.units x ≠ 0)

include nonzero

theorem den_le_num {n : Nat} (less : 1074 ≤ 3 * n) : (Target.ofFloat x).den ≤ 10 ^ n * (Target.ofFloat x).num := by
  have some : 1 ≤ Binary64.units x := Nat.one_le_iff_ne_zero.2 nonzero
  calc 4 * Binary64.unitsPerOne ≤ 4 * 10 ^ n := Nat.mul_le_mul_left 4 (one_shiftLeft_le less)
    _ = 10 ^ n * (4 * 1) := by ring
    _ ≤ 10 ^ n * (4 * Binary64.units x) := Nat.mul_le_mul_left _ (Nat.mul_le_mul_left 4 some)

theorem num_sub_low : (Target.ofFloat x).num - (Target.ofFloat x).low =
    if Binary64.significand x = Binary64.fractions ∧ 0 < Binary64.spacing x then 2 ^ Binary64.spacing x
    else 2 * 2 ^ Binary64.spacing x := by
  have some : 2 ^ Binary64.spacing x ≤ Binary64.units x := by
    rw [Binary64.units_eq] at nonzero ⊢
    exact Nat.le_mul_of_pos_left _ (Nat.pos_of_ne_zero (left_ne_zero_of_mul nonzero))
  simp only [Target.ofFloat, Nat.one_shiftLeft]
  generalize 2 ^ Binary64.spacing x = step at some ⊢
  by_cases narrow : Binary64.significand x = Binary64.fractions ∧ 0 < Binary64.spacing x
  · rw [if_pos narrow]
    omega
  · rw [if_neg narrow]
    omega

omit nonzero in
theorem high_sub_num : (Target.ofFloat x).high - (Target.ofFloat x).num = 2 * 2 ^ Binary64.spacing x := by
  simp only [Target.ofFloat, Nat.one_shiftLeft]
  omega

/-- The shortest decimal of a finite double lies in its interval: with seventeen digits there always is one. -/
theorem shortest_holds :
    (Target.ofFloat x).holds ((shortest x).digits * (powerOfTen (shortest x).exponent).1)
      (powerOfTen (shortest x).exponent).2 = true := by
  rw [shortest, if_neg nonzero]
  apply search_holds
  have positive : 0 < (Target.ofFloat x).den := Nat.mul_pos (by decide) (one_shiftLeft_pos 1074)
  have place : leadingExponent (Target.ofFloat x).num (Target.ofFloat x).den + 1 - (17 : Nat) =
      leadingExponent (Target.ofFloat x).num (Target.ofFloat x).den - (16 : Nat) := by omega
  have grid := leadingExponent_le positive (den_le_num nonzero (by decide)) 16
  rw [place]
  generalize leadingExponent (Target.ofFloat x).num (Target.ofFloat x).den - (16 : Nat) = e at grid ⊢
  -- With the size `m * step`, the grid is finer than the size divided by ten to the sixteenth.
  have size : (Target.ofFloat x).num * (powerOfTen e).2 =
      4 * (Binary64.significand x * (2 ^ Binary64.spacing x * (powerOfTen e).2)) := by
    rw [Target.ofFloat, Binary64.units_eq]
    ring
  have step_pos : 0 < 2 ^ Binary64.spacing x * (powerOfTen e).2 :=
    Nat.mul_pos (Nat.two_pow_pos _) (powerOfTen_snd_pos e)
  have most : (Binary64.significand x + 1) * (2 ^ Binary64.spacing x * (powerOfTen e).2) ≤
      2 * Binary64.fractions * (2 ^ Binary64.spacing x * (powerOfTen e).2) :=
    Nat.mul_le_mul_right _ (Binary64.significand_lt x)
  rw [Nat.add_mul, Nat.one_mul, Binary64.fractions] at most
  rw [size] at grid
  apply multiple?_ne_none positive
  · rw [num_sub_low nonzero]
    split
    · next narrow =>
      rw [narrow.1, Binary64.fractions] at grid
      omega
    · rw [Nat.mul_assoc]
      omega
  · rw [high_sub_num, Nat.mul_assoc]
    omega

end

end Decimal

end ChatService
