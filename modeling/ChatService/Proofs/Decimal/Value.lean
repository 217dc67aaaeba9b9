import ChatService.Decimal.Reading
import ChatService.Proofs.Calculator.Flat
import ChatService.Proofs.Decimal.Sign

/-!
# The exact numbers behind doubles and texts

A finite double stands for a rational number, and so does a text of digits with an optional sign, point
and exponent. Each notation denotes what it is made from: a decimal written in full or with an exponent denotes
the decimal, and the short form of a double denotes its shortest decimal.
-/

namespace ChatService

open Calculator (Unsigned)

/-- A number with a minus sign or without. -/
def signedValue (negative : Bool) (r : ℚ) : ℚ := if negative then -r else r

/-! ## Doubles -/

namespace Binary64

open Float.Model Float.Model.UnpackedFloat

/-- The number that an unpacked double stands for; zero if it stands for none. -/
def unpackedValue : UnpackedFloat → ℚ
  | .finite .negative mantissa exponent _ => -(mantissa * 2 ^ exponent)
  | .finite .positive mantissa exponent _ => mantissa * 2 ^ exponent
  | .infinity _ | .notANumber | .zero _ => 0

/-- The number that a double stands for. -/
def value (x : Float) : ℚ := unpackedValue x.toModel.unpack

variable {x : Float} {negative : Bool} {bits : Nat}

theorem unpackedValue_finite (negative : Bool) {mantissa : Nat} {exponent : Int} (positive : 0 < mantissa) :
    unpackedValue (.finite (signOf negative) mantissa exponent positive) =
      signedValue negative (mantissa * 2 ^ exponent) := by
  cases negative <;> rfl

/-- The number behind the fields of a double: below the first power of two the fields are the mantissa. -/
theorem unpackedValue_vector (small : bits < infinityFields) :
    unpackedValue (unpack .binary64 (vector negative bits)) = signedValue negative
      (if bits < fractions then (bits : ℚ) * 2 ^ (-1074 : ℤ)
        else ((fractions + bits % fractions : Nat) : ℚ) * 2 ^ ((bits / fractions : Nat) - 1075 : ℤ)) := by
  have exponent : (@unpackExponent .binary64 (vector negative bits)).toNat = _ := unpackExponent_vector small
  have mantissa : (@unpackMantissa .binary64 (vector negative bits)).toNat = _ := unpackMantissa_vector small
  have parts := Nat.div_add_mod bits fractions
  simp only [UnpackedFloat.unpack, unpackSign_vector small]
  split
  · next all =>
    rw [all] at exponent
    change 2047 = _ at exponent
    simp only [infinityFields, fractions] at small exponent
    omega
  · split
    · next none =>
      rw [none] at exponent ⊢
      change 0 = _ at exponent
      rw [← exponent, Nat.mul_zero, Nat.zero_add] at parts
      have below : bits < fractions := parts ▸ Nat.mod_lt _ (by decide)
      rw [if_pos below]
      split
      · next nothing =>
        rw [nothing] at mantissa
        change 0 = _ at mantissa
        rw [parts] at mantissa
        rw [← mantissa]
        cases negative <;> simp [unpackedValue, signedValue]
      · rw [unpackedValue_finite, mantissa, parts]
        rfl
    · next some =>
      have large : ¬ bits < fractions := by
        intro below
        rw [Nat.div_eq_of_lt below] at exponent
        exact some (BitVec.eq_of_toNat_eq exponent)
      have leading : (1#1 ++ @unpackMantissa .binary64 (vector negative bits)).toNat =
          fractions + bits % fractions := by
        rw [BitVec.toNat_append, mantissa, ← Nat.shiftLeft_add_eq_or_of_lt]
        · rfl
        · exact Nat.mod_lt _ (by decide)
      rw [unpackedValue_finite, exponent, leading, if_neg large]
      rfl

theorem one_shiftLeft_cast (k : Nat) : ((1 <<< k : Nat) : ℚ) = 2 ^ k := by
  rw [Nat.one_shiftLeft, Nat.cast_pow, Nat.cast_ofNat]

theorem unitsPerOne_cast : (unitsPerOne : ℚ) = 2 ^ 1074 := one_shiftLeft_cast 1074

/-- A finite double is a whole number of units, with its sign. -/
theorem value_eq (finite : isFinite x) : value x = signedValue (isNegative x) (units x / unitsPerOne) := by
  have small := isFinite_iff.1 finite
  have whole : value x = unpackedValue (unpack .binary64 (vector (isNegative x) (fieldBits x))) := by
    rw [vector, ofFields_fieldBits finite]
    rfl
  rw [whole, unpackedValue_vector small, unitsPerOne_cast, units_eq]
  congr 1
  split
  · next below =>
    rw [significand_of_lt below, spacing, Nat.div_eq_of_lt below, Nat.zero_sub, pow_zero, Nat.mul_one, zpow_neg,
      div_eq_mul_inv]
    rfl
  · next above =>
    have scale : 0 < fieldBits x / fractions := Nat.div_pos (Nat.not_lt.1 above) (by decide)
    have place : ((fieldBits x / fractions : Nat) - 1075 : ℤ) = (spacing x : ℤ) - (1074 : ℕ) := by
      rw [spacing]
      omega
    rw [significand_of_le (Nat.not_lt.1 above), place, zpow_sub₀ (by norm_num), zpow_natCast, zpow_natCast, Nat.cast_mul,
      Nat.cast_pow, Nat.cast_ofNat, mul_div_assoc]

/-- A finite double is whole when it stands for a whole number. -/
theorem isWhole_iff (finite : isFinite x) : isWhole x = true ↔ ∃ k : ℤ, value x = k := by
  have one : (unitsPerOne : ℚ) ≠ 0 := Nat.cast_ne_zero.2 (Decimal.one_shiftLeft_pos 1074).ne'
  have sign (r : ℚ) : (∃ k : ℤ, signedValue (isNegative x) r = k) ↔ ∃ k : ℤ, r = k := by
    cases isNegative x with
    | false => rfl
    | true =>
      refine ⟨fun ⟨k, same⟩ => ⟨-k, ?_⟩, fun ⟨k, same⟩ => ⟨-k, ?_⟩⟩
      · rw [Int.cast_neg, ← same]
        exact (neg_neg r).symm
      · rw [Int.cast_neg, ← same]
        rfl
  rw [value_eq finite, sign, isWhole, beq_iff_eq, ← Nat.dvd_iff_mod_eq_zero, ← Int.natCast_dvd_natCast]
  refine exists_congr fun k => ?_
  rw [div_eq_iff one, mul_comm]
  norm_cast

end Binary64

/-! ## Texts -/

/-- The number that a decimal stands for. -/
def Decimal.value (d : Decimal) : ℚ := d.digits * 10 ^ d.exponent

namespace Numeral

variable {s : List Char}

/-- The number that a text denotes. -/
def denoted? (s : List Char) : Option ℚ :=
  (decimal? (takeSign s).2).map fun d => signedValue (takeSign s).1 d.value

/-- What may follow the digits of a number, and the power of ten that it stands for. -/
inductive Scale : List Char → Int → Prop
  | none : Scale [] 0
  | exponent {s : List Char} {k : Int} (read : signed? s = some k) : Scale ('e' :: s) k

theorem takeSign_withSign {negative : Bool} (unsigned : ∀ c ∈ s.head?, c ≠ '-' ∧ c ≠ '+') :
    takeSign (Binary64.withSign negative s) = (negative, s) := by
  cases negative with
  | true => rfl
  | false =>
    unfold takeSign
    rw [Binary64.withSign, if_neg Bool.false_ne_true]
    split
    · simp at unsigned
    · simp at unsigned
    · rfl

/-- The digits of a number hold no mark of an exponent. -/
theorem unmarked_of_mem {u : Unsigned} {c : Char} (mem : c ∈ u.text) : (!(c == 'e' || c == 'E')) = true := by
  rcases Unsigned.mem_text mem with digit | rfl
  · have other {d : Char} (letter : Text.isDigit d = false) : c ≠ d := by
      rintro rfl
      rw [letter] at digit
      cases digit
    simp [other (show Text.isDigit 'e' = false by decide), other (show Text.isDigit 'E' = false by decide)]
  · rfl

theorem span_text (u : Unsigned) :
    u.text.takeWhile Text.isDigit = u.whole ∧ u.text.dropWhile Text.isDigit = (u.places.map ('.' :: ·)).getD [] := by
  obtain ⟨whole, places, digits, written⟩ := u
  have all : ∀ c ∈ whole, Text.isDigit c = true := fun c mem => digits c (List.mem_append_left _ mem)
  cases places with
  | none => simpa [Unsigned.text] using Text.span_append [] all (by simp)
  | some places => exact Text.span_append ('.' :: places) all (by simp [Unsigned.isDigit_point])

/-- Digits with a point among or around them are read as they are meant, whatever power of ten they are scaled by. -/
theorem decimal?_text (u : Unsigned) {tail : List Char} {k : Int} (scale : Scale tail k) :
    decimal? (u.text ++ tail) =
      some ⟨Text.digitsValue (u.whole ++ u.places.getD []), k - (u.places.getD []).length⟩ := by
  have mark : ∀ c ∈ tail.head?, (!(c == 'e' || c == 'E')) = false := by
    cases scale <;> simp
  obtain ⟨mantissa, rest⟩ := Text.span_append tail (fun c (mem : c ∈ u.text) => unmarked_of_mem mem) mark
  obtain ⟨whole, point⟩ := span_text u
  have filled : ¬(u.whole.isEmpty && (u.places.getD []).isEmpty) = true := by
    rcases u.written with some | ⟨c, places, some⟩ <;> simp [some]
  have places : ∀ s, u.places = some s → s.all Text.isDigit = true := by
    intro s same
    rw [List.all_eq_true]
    exact fun c mem => u.digits c (List.mem_append_right _ (by rwa [same]))
  simp only [decimal?, mantissa, rest, whole, point]
  cases same : u.places with
  | none =>
    rw [same] at filled
    cases scale with
    | none => exact if_neg filled
    | exponent read =>
      simp only [read]
      exact if_neg filled
  | some s =>
    rw [same] at filled
    simp only [Option.map_some, Option.getD_some, places s same, and_self, ↓reduceIte]
    cases scale with
    | none => exact if_neg filled
    | exponent read =>
      simp only [read]
      exact if_neg filled

end Numeral

/-! ## Notations -/

namespace Calculator

/-- The number that digits with a point among or around them write. -/
def Unsigned.number (u : Unsigned) : ℚ :=
  Text.digitsValue (u.whole ++ u.places.getD []) / 10 ^ (u.places.getD []).length

theorem number_ofWhole (n : Nat) : (Unsigned.ofWhole n).number = n := by
  simp [Unsigned.number, Unsigned.ofWhole, digitsValue_wholeText]

theorem number_ofPlaces (n : Nat) {width : Nat} (positive : 0 < width) :
    (Unsigned.ofPlaces n width).number = n / 10 ^ width := by
  have less : n % 10 ^ width < 10 ^ width := Nat.mod_lt _ (Nat.pow_pos (by decide))
  simp only [Unsigned.number, Unsigned.ofPlaces, Option.getD_some, digitsValue_plain positive,
    length_padded positive less]

end Calculator

namespace Numeral

open Decimal (wholeText padded)

/-- The texts that write a number: digits with a point among or around them, scaled by a power of ten. -/
inductive Writes : List Char → ℚ → Prop
  | scaled (u : Unsigned) {tail : List Char} {k : Int} (scale : Scale tail k) :
      Writes (u.text ++ tail) (u.number * 10 ^ k)

/-- A text that writes a number denotes it, with the sign before it. -/
theorem Writes.denoted? {r : ℚ} (writes : Writes s r) (negative : Bool) :
    denoted? (Binary64.withSign negative s) = some (signedValue negative r) := by
  cases writes with
  | @scaled u tail k scale =>
    have unsigned : ∀ c ∈ (u.text ++ tail).head?, c ≠ '-' ∧ c ≠ '+' := by
      intro c head
      rw [List.head?_append_of_ne_nil _ (Calculator.text_ne_nil u)] at head
      exact u.head_text c head
    rw [Numeral.denoted?, takeSign_withSign unsigned, decimal?_text u scale]
    simp only [Option.map_some, Decimal.value, Unsigned.number]
    rw [zpow_sub₀ (by norm_num), zpow_natCast, mul_div_assoc', div_mul_eq_mul_div]

theorem writes_text (u : Unsigned) : Writes u.text u.number := by
  have form := Writes.scaled u .none
  rwa [List.append_nil, zpow_zero, mul_one] at form

theorem writes_whole (n : Nat) : Writes (wholeText n) n := by
  have form := writes_text (.ofWhole n)
  rwa [Calculator.number_ofWhole] at form

theorem writes_point (n : Nat) : Writes (wholeText n ++ ['.', '0']) n := by
  have form := writes_text (.ofPlaces (10 * n) 1)
  have text : (Unsigned.ofPlaces (10 * n) 1).text = wholeText n ++ ['.', '0'] := by
    have whole : 10 * n / 10 ^ 1 = n := by omega
    have places : 10 * n % 10 ^ 1 = 0 := by omega
    simp only [Unsigned.text, Unsigned.ofPlaces, whole, places]
    rfl
  rwa [text, Calculator.number_ofPlaces _ Nat.one_pos, pow_one, Nat.cast_mul, Nat.cast_ofNat,
    mul_div_cancel_left₀ _ (by norm_num)] at form

theorem value_of_nonneg {d : Decimal} (high : 0 ≤ d.exponent) : d.value = (d.digits * 10 ^ d.exponent.toNat : Nat) := by
  obtain ⟨k, place⟩ := Int.eq_ofNat_of_zero_le high
  rw [Decimal.value, place, zpow_natCast, Int.toNat_natCast, Nat.cast_mul, Nat.cast_pow, Nat.cast_ofNat]

/-- A decimal in full. -/
theorem writes_plain (d : Decimal) : Writes d.plain d.value := by
  by_cases high : 0 ≤ d.exponent
  · rw [Decimal.plain, if_pos high, value_of_nonneg high]
    exact writes_whole _
  · obtain ⟨k, place⟩ := Int.eq_ofNat_of_zero_le (show 0 ≤ -d.exponent by omega)
    have form := writes_text (.ofPlaces d.digits k)
    rw [Calculator.number_ofPlaces _ (by omega)] at form
    rw [Decimal.plain, if_neg high, place, Decimal.value, ← neg_neg d.exponent, place, zpow_neg, zpow_natCast,
      ← div_eq_mul_inv]
    exact form

theorem digits?_padded (width n : Nat) : digits? (padded width (wholeText n)) = some n := by
  have filled : padded width (wholeText n) ≠ [] := List.append_ne_nil_of_right_ne_nil _ Nat.toDigits_ne_nil
  have all : (padded width (wholeText n)).all Text.isDigit = true :=
    List.all_eq_true.2 fun c mem => Text.isDigit_of_isDigit (Calculator.isDigit_of_mem_padded mem)
  rw [digits?, all, List.isEmpty_eq_false_iff.2 filled, Calculator.digitsValue_padded]
  rfl

theorem signed?_padded (negative : Bool) (width n : Nat) :
    signed? ((if negative then '-' else '+') :: padded width (wholeText n)) =
      some (if negative then -(n : Int) else n) := by
  cases negative <;> simp [signed?, takeSign, digits?_padded]

theorem scale_exponent (k : Int) :
    Scale ('e' :: (if k < 0 then '-' else '+') :: padded 2 (wholeText k.natAbs)) k := by
  have read := signed?_padded (decide (k < 0)) 2 k.natAbs
  have same : (if k < 0 then -(k.natAbs : Int) else k.natAbs) = k := by omega
  simp only [decide_eq_true_eq, same] at read
  exact .exponent read

/-- Digits with a point behind the first one, if there are others. -/
theorem exists_mantissa {first : Char} {others : List Char} (all : ∀ c ∈ first :: others, Text.isDigit c = true) :
    ∃ u : Unsigned, u.text = (if others = [] then [first] else first :: '.' :: others) ∧
      u.number = Text.digitsValue (first :: others) / 10 ^ others.length := by
  cases others with
  | nil => exact ⟨⟨[first], none, all, .inl (List.cons_ne_nil _ _)⟩, rfl, rfl⟩
  | cons c rest => exact ⟨⟨[first], some (c :: rest), all, .inl (List.cons_ne_nil _ _)⟩, rfl, rfl⟩

/-- A decimal with an exponent. -/
theorem writes_scientific (d : Decimal) : Writes d.scientific d.value := by
  obtain ⟨first, others, form⟩ := List.exists_cons_of_ne_nil (show wholeText d.digits ≠ [] from Nat.toDigits_ne_nil)
  have all : ∀ c ∈ first :: others, Text.isDigit c = true := by
    rw [← form]
    exact fun c mem => Text.isDigit_of_isDigit (Calculator.isDigit_of_mem_wholeText mem)
  obtain ⟨u, text, number⟩ := exists_mantissa all
  have writes := Writes.scaled u (scale_exponent (d.exponent + others.length))
  have size : u.number * 10 ^ (d.exponent + others.length) = d.value := by
    rw [number, ← form, Calculator.digitsValue_wholeText, zpow_add₀ (by norm_num), zpow_natCast, Decimal.value]
    field_simp
  have place : d.exponent + ((first :: others).length : Int) - 1 = d.exponent + others.length := by
    rw [List.length_cons]
    omega
  rw [size, text] at writes
  simp only [Decimal.scientific, form, place]
  cases others <;> exact writes

end Numeral

namespace Binary64

variable {x : Float}

theorem value_shortest_zero (zero : units x = 0) : (Decimal.shortest x).value = 0 := by
  rw [Decimal.shortest, if_pos zero, Decimal.value, Nat.cast_zero, zero_mul]

/-- The short form of a finite double denotes its shortest decimal. -/
theorem denoted?_short (finite : isFinite x) :
    Numeral.denoted? (short x) = some (signedValue (isNegative x) (Decimal.shortest x).value) := by
  simp only [short, finite, Bool.not_true, Bool.false_eq_true, ↓reduceIte]
  apply Numeral.Writes.denoted?
  split
  · next zero =>
    rw [value_shortest_zero zero]
    exact_mod_cast Numeral.writes_point 0
  · split
    · exact Numeral.writes_scientific _
    · split
      · next high =>
        rw [Decimal.plain, if_pos high, Numeral.value_of_nonneg high]
        exact Numeral.writes_point _
      · exact Numeral.writes_plain _

end Binary64

end ChatService
