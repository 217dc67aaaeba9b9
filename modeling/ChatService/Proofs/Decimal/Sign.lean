import ChatService.Proofs.Decimal.ReadBack

/-!
# The sign of a double

A finite double is taken apart into its sign and the rest. Negation turns the sign round and keeps the
rest, and what is less than zero is what has a sign and is not zero.
-/

namespace ChatService.Binary64

open Float.Model Float.Model.UnpackedFloat

variable {x : Float} {negative : Bool} {bits : Nat}

/-- The sign of a double that is negative or not. -/
def signOf (negative : Bool) : Sign := if negative then .negative else .positive

theorem signOf_not (negative : Bool) : signOf (!negative) = -signOf negative := by
  cases negative <;> rfl

/-- The bits as a vector. -/
def vector (negative : Bool) (bits : Nat) : BitVec 64 := (ofFields negative bits).toBits.toBitVec

theorem toNat_vector (small : bits < infinityFields) :
    (vector negative bits).toNat = if negative then signWeight + bits else bits :=
  toBits_ofFields small

theorem unpackSign_vector (small : bits < infinityFields) :
    Sign.ofBitVec (@unpackSign .binary64 (vector negative bits)) = signOf negative := by
  have field : (@unpackSign .binary64 (vector negative bits)).toNat = if negative then 1 else 0 := by
    rw [unpackSign_def, BitVec.extractLsb'_toNat, Nat.shiftRight_eq_div_pow, toNat_vector small]
    simp only [infinityFields, fractions, signWeight] at small ⊢
    cases negative <;> simp <;> omega
  cases negative with
  | true => rw [show @unpackSign .binary64 (vector true bits) = 1#1 from BitVec.eq_of_toNat_eq field]; rfl
  | false => rw [show @unpackSign .binary64 (vector false bits) = 0#1 from BitVec.eq_of_toNat_eq field]; rfl

theorem unpackExponent_vector (small : bits < infinityFields) :
    (@unpackExponent .binary64 (vector negative bits)).toNat = bits / fractions := by
  rw [unpackExponent_def, BitVec.extractLsb'_toNat, Nat.shiftRight_eq_div_pow, toNat_vector small]
  simp only [infinityFields, fractions, signWeight] at small ⊢
  cases negative <;> simp <;> omega

theorem unpackMantissa_vector (small : bits < infinityFields) :
    (@unpackMantissa .binary64 (vector negative bits)).toNat = bits % fractions := by
  rw [unpackMantissa_def, BitVec.extractLsb'_toNat, Nat.shiftRight_eq_div_pow, toNat_vector small]
  simp only [infinityFields, fractions, signWeight] at small ⊢
  cases negative <;> simp
  omega

theorem neg_unpack (small : bits < infinityFields) :
    (unpack .binary64 (vector negative bits)).neg = unpack .binary64 (vector (!negative) bits) := by
  have exponents : @unpackExponent .binary64 (vector (!negative) bits) = @unpackExponent .binary64 (vector negative bits) :=
    BitVec.eq_of_toNat_eq ((unpackExponent_vector small).trans (unpackExponent_vector small).symm)
  have mantissas : @unpackMantissa .binary64 (vector (!negative) bits) = @unpackMantissa .binary64 (vector negative bits) :=
    BitVec.eq_of_toNat_eq ((unpackMantissa_vector small).trans (unpackMantissa_vector small).symm)
  simp only [UnpackedFloat.unpack, unpackSign_vector small, signOf_not, exponents, mantissas]
  split
  · split <;> rfl
  · split
    · split <;> rfl
    · rfl

theorem neg_ofFields (small : bits < infinityFields) : -ofFields negative bits = ofFields (!negative) bits := by
  apply Float.toBits_inj.1
  apply UInt64.toBitVec_inj.1
  have whole : pack .binary64 (unpack .binary64 (vector (!negative) bits)) = vector (!negative) bits :=
    pack_unpack_of_valid (ofFields (!negative) bits).toModel.valid
  rw [← neg_unpack small] at whole
  exact whole

theorem neg_eq (finite : isFinite x) : -x = ofFields (!isNegative x) (fieldBits x) := by
  conv_lhs => rw [← ofFields_fieldBits finite]
  exact neg_ofFields (isFinite_iff.1 finite)

/-! ## Comparison with zero -/

/-- How a finite double compares with zero. -/
theorem compare_zero (small : bits < infinityFields) :
    (UnpackedFloat.unpack .binary64 (vector negative bits)).compare (.zero .positive) =
      some (if bits = 0 then .eq else if negative then .lt else .gt) := by
  have exponent : (@unpackExponent .binary64 (vector negative bits)).toNat = _ := unpackExponent_vector small
  have mantissa : (@unpackMantissa .binary64 (vector negative bits)).toNat = _ := unpackMantissa_vector small
  have parts := Nat.div_add_mod bits fractions
  simp only [UnpackedFloat.unpack, unpackSign_vector small]
  split
  · next all =>
    rw [all] at exponent
    change 2047 = _ at exponent
    simp only [infinityFields, fractions] at small exponent
    omega
  · split
    · next none =>
      rw [none] at exponent
      change 0 = _ at exponent
      split
      · next nothing =>
        rw [nothing] at mantissa
        change 0 = _ at mantissa
        rw [← exponent, ← mantissa, Nat.mul_zero] at parts
        rw [if_pos parts.symm]
        rfl
      · next something =>
        rw [if_neg]
        · cases negative <;> rfl
        · rintro rfl
          exact something (BitVec.eq_of_toNat_eq mantissa)
    · next some =>
      rw [if_neg]
      · cases negative <;> rfl
      · rintro rfl
        exact some (BitVec.eq_of_toNat_eq exponent)

theorem zero_eq : (0 : Float) = ofFields false 0 := by
  decide +kernel

theorem unpack_zero : UnpackedFloat.unpack .binary64 (vector false 0) = .zero .positive := by
  have bits : vector false 0 = packedZero .binary64 .positive := by decide +kernel
  rw [bits, unpack_packedZero]

theorem model_zero : (0 : Float).toModel.unpack = .zero .positive := by
  rw [← unpack_zero, vector, ← zero_eq]
  rfl

/-- How a finite double compares with zero, by its sign and its fields. -/
theorem compare_model_zero (finite : isFinite x) : x.toModel.unpack.compare (0 : Float).toModel.unpack =
    some (if fieldBits x = 0 then .eq else if isNegative x then .lt else .gt) := by
  have whole : (unpack .binary64 (vector (isNegative x) (fieldBits x))).compare _ = _ :=
    compare_zero (isFinite_iff.1 finite)
  rw [vector, ofFields_fieldBits finite] at whole
  rw [model_zero]
  exact whole

/-- Zero compares the other way round. -/
theorem zero_compare (y : UnpackedFloat) : (UnpackedFloat.zero .positive).compare y =
    (y.compare (.zero .positive)).map Ordering.swap := by
  rcases y with ⟨_ | _⟩ | _ | ⟨_ | _⟩ | ⟨_ | _⟩ <;> rfl

/-- What is less than zero has a sign, and is not zero. -/
theorem lt_zero_iff (finite : isFinite x) : x < 0 ↔ isNegative x = true ∧ fieldBits x ≠ 0 := by
  change decide ((x.toModel.unpack.compare (0 : Float).toModel.unpack == some .lt) = true) = true ↔ _
  rw [decide_eq_true_iff, compare_model_zero finite, beq_iff_eq, Option.some.injEq]
  by_cases zero : fieldBits x = 0
  · simp [zero]
  · cases isNegative x <;> simp [zero]

/-- What is at most zero has a sign, or is zero. -/
theorem le_zero_iff (finite : isFinite x) : x ≤ 0 ↔ isNegative x = true ∨ fieldBits x = 0 := by
  change decide ((x.toModel.unpack.compare (0 : Float).toModel.unpack).any (·.isLE) = true) = true ↔ _
  rw [decide_eq_true_iff, compare_model_zero finite, Option.any_some]
  by_cases zero : fieldBits x = 0
  · simp [zero]
  · cases isNegative x <;> simp [zero]

/-- What is above zero has no sign, and is not zero. -/
theorem zero_lt_iff (finite : isFinite x) : 0 < x ↔ isNegative x = false ∧ fieldBits x ≠ 0 := by
  have swapped := zero_compare x.toModel.unpack
  rw [← model_zero, compare_model_zero finite] at swapped
  change decide (((0 : Float).toModel.unpack.compare x.toModel.unpack == some .lt) = true) = true ↔ _
  rw [decide_eq_true_iff, swapped, beq_iff_eq, Option.map_some, Option.some.injEq]
  by_cases zero : fieldBits x = 0
  · simp [zero]
  · cases isNegative x <;> simp [zero]

end ChatService.Binary64
