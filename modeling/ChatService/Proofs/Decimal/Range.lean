import ChatService.Proofs.Decimal.Sign

/-!
# The range of the doubles

Beyond the finite doubles there are the two infinities and what is no number. A comparison with zero lets some of
them pass, and a whole number is rounded to an infinity if it is large enough.
-/

namespace ChatService.Binary64

open Float.Model Float.Model.UnpackedFloat

variable {x : Float}

/-! ## Infinities and what is no number -/

theorem not_isFinite_infinity (negative : Bool) : isFinite (infinity negative) = false := by
  cases negative <;> decide +kernel

/-- The two infinities are all that has their fields. -/
theorem eq_infinity (fields : fieldBits x = infinityFields) : x = infinity (isNegative x) := by
  have bits (negative : Bool) : (infinity negative).toBits.toNat =
      if negative then signWeight + infinityFields else infinityFields := by
    cases negative <;> decide +kernel
  apply Float.toBits_inj.1
  apply UInt64.toNat_inj.1
  rw [toNat_toBits, fields, bits]

/-- There is one double that is no number. -/
theorem eq_nan (no : isNaN x = true) : x = nan := by
  have large : infinityFields < x.toBits.toNat % signWeight := of_decide_eq_true no
  simp only [infinityFields, fractions, signWeight] at large
  have exponent : @unpackExponent .binary64 x.toBits.toBitVec = -1#_ := by
    apply BitVec.eq_of_toNat_eq
    rw [unpackExponent_def, BitVec.extractLsb'_toNat, Nat.shiftRight_eq_div_pow]
    change x.toBits.toNat / 2 ^ 52 % 2 ^ 11 = 2047
    omega
  have mantissa : @unpackMantissa .binary64 x.toBits.toBitVec ≠ 0#_ := by
    intro zero
    have low := congrArg BitVec.toNat zero
    rw [unpackMantissa_def, BitVec.extractLsb'_toNat, Nat.shiftRight_eq_div_pow] at low
    change x.toBits.toNat / 2 ^ 0 % 2 ^ 52 = 0 at low
    omega
  have packed : nan.toBits.toBitVec = packedNaN .binary64 := by decide +kernel
  apply Float.toBits_inj.1
  apply UInt64.toBitVec_inj.1
  rw [packed]
  exact x.toModel.valid.eq_packedNaN exponent mantissa

/-- A double that is not at most zero: a finite one above zero, the positive infinity, or no number. -/
theorem not_le_zero_iff : ¬x ≤ 0 ↔ (isFinite x = true ∧ 0 < x) ∨ x = infinity false ∨ x = nan := by
  constructor
  · intro above
    rcases Nat.lt_trichotomy (fieldBits x) infinityFields with small | equal | large
    · have finite := isFinite_iff.2 small
      rw [le_zero_iff finite, not_or, Bool.not_eq_true] at above
      exact .inl ⟨finite, (zero_lt_iff finite).2 above⟩
    · have same := eq_infinity equal
      cases sign : isNegative x with
      | false => exact .inr (.inl (by rwa [sign] at same))
      | true =>
        rw [sign] at same
        rw [same] at above
        exact absurd (by decide +kernel) above
    · exact .inr (.inr (eq_nan (decide_eq_true large)))
  · rintro (⟨finite, positive⟩ | rfl | rfl)
    · rw [zero_lt_iff finite] at positive
      simp [le_zero_iff finite, positive]
    · decide +kernel
    · decide +kernel

/-! ## Whole numbers -/

/-- A quotient is rounded to an odd number at most if it lies below the half behind it. -/
theorem roundHalfEven_le_iff {num den k : Nat} (positive : 0 < den) (odd : k % 2 = 1) :
    roundHalfEven num den ≤ k ↔ 2 * num < (2 * k + 1) * den := by
  have whole : num / den * den + num % den = num := by rw [Nat.mul_comm]; exact Nat.div_add_mod num den
  have rest : num % den < den := Nat.mod_lt num positive
  have product : (2 * k + 1) * den = 2 * (k * den) + den := by ring
  rw [product]
  simp only [roundHalfEven]
  rcases Nat.lt_trichotomy (num / den) k with below | equal | above
  · have step : (num / den + 1) * den ≤ k * den := Nat.mul_le_mul_right den below
    rw [Nat.add_mul] at step
    split <;> omega
  · rw [equal] at whole ⊢
    split <;> omega
  · have step : (k + 1) * den ≤ num / den * den := Nat.mul_le_mul_right den above
    rw [Nat.add_mul] at step
    split <;> omega

theorem le_roundHalfEven {num den low : Nat} (positive : 0 < den) (least : low * den ≤ num) :
    low ≤ roundHalfEven num den := by
  have quotient : low ≤ num / den := (Nat.le_div_iff_mul_le positive).2 least
  simp only [roundHalfEven]
  split <;> omega

theorem roundHalfEven_le {num den high : Nat} (positive : 0 < den) (most : num ≤ high * den) :
    roundHalfEven num den ≤ high := by
  have whole : num / den * den + num % den = num := by rw [Nat.mul_comm]; exact Nat.div_add_mod num den
  have quotient : num / den ≤ high := Nat.div_le_of_le_mul (by rwa [Nat.mul_comm])
  simp only [roundHalfEven]
  rcases Nat.eq_or_lt_of_le quotient with equal | below
  · rw [equal] at whole ⊢
    split <;> omega
  · split <;> omega

/-- The least whole number that is nearer to 2 to the power 1024 than to any double below: the difference of 2 to the
power 1024 and 2 to the power 970. -/
def wholeBound : Nat := (4 * fractions - 1) <<< 970

/-- The fields that a whole number of units is rounded to are below those of the exponent `e + 3`, unless it is beyond
the last number with smaller ones. -/
theorem nearest_fields_lt_iff (N e : Nat) :
    (N.log2 - 52) * fractions + roundHalfEven N (1 <<< (N.log2 - 52)) < (e + 3) * fractions ↔
      N < (4 * fractions - 1) * 2 ^ e := by
  have power (k : Nat) : 2 ^ (52 + k) = fractions * 2 ^ k := by rw [Nat.pow_add]; rfl
  have most : N < 2 * fractions * 2 ^ (N.log2 - 52) := by
    calc N < 2 ^ (N.log2 + 1) := Nat.lt_log2_self
      _ ≤ 2 ^ (52 + (N.log2 - 52 + 1)) := Nat.pow_le_pow_right (by decide) (by omega)
      _ = 2 * fractions * 2 ^ (N.log2 - 52) := by rw [power, Nat.pow_succ]; ring
  have least (above : 52 < N.log2) : fractions * 2 ^ (N.log2 - 52) ≤ N := by
    rw [← power, Nat.add_sub_of_le above.le]
    exact Nat.log2_self_le (by rintro rfl; simp at above)
  rw [Nat.one_shiftLeft]
  generalize room : N.log2 - 52 = r at most least ⊢
  have step_pos : 0 < 2 ^ r := Nat.two_pow_pos r
  have some : 0 < 2 ^ e := Nat.two_pow_pos e
  have rounded : roundHalfEven N (2 ^ r) ≤ 2 * fractions := roundHalfEven_le step_pos most.le
  rcases Nat.lt_trichotomy r (e + 1) with below | rfl | above
  · have scale : 2 ^ r ≤ 2 ^ e := Nat.pow_le_pow_right (by decide) (by omega)
    obtain ⟨k, rfl⟩ : ∃ k, e = r + k := ⟨e - r, by omega⟩
    refine iff_of_true ?_ ?_
    · simp only [fractions] at rounded ⊢
      omega
    · simp only [fractions] at most ⊢
      omega
  · have last : roundHalfEven N (2 ^ (e + 1)) ≤ 2 * fractions - 1 ↔ _ := roundHalfEven_le_iff step_pos (by decide)
    rw [Nat.pow_succ] at last ⊢
    simp only [fractions] at last ⊢
    omega
  · obtain ⟨k, rfl⟩ : ∃ k, r = e + 2 + k := ⟨r - (e + 2), by omega⟩
    have large := least (by omega)
    have quotient := le_roundHalfEven step_pos large
    have scale : 4 * 2 ^ e ≤ 2 ^ (e + 2 + k) := by
      rw [Nat.add_assoc, Nat.pow_add, Nat.mul_comm]
      exact Nat.mul_le_mul_left _ (Nat.pow_le_pow_right (show 0 < 2 by decide) (Nat.le_add_right 2 k))
    refine iff_of_false ?_ ?_
    · simp only [fractions] at quotient ⊢
      omega
    · simp only [fractions] at large ⊢
      omega

theorem isFinite_rounded (negative : Bool) (bits : Nat) :
    isFinite (if infinityFields ≤ bits then infinity negative else ofFields negative bits) = true ↔
      bits < infinityFields := by
  split
  · next large => simpa [not_isFinite_infinity] using large
  · next small => simpa [isFinite_ofFields (Nat.not_le.1 small)] using small

theorem lt_shiftLeft_iff (n m k e : Nat) : n < m <<< k ↔ n * 1 <<< e < m * 2 ^ (k + e) := by
  rw [Nat.shiftLeft_eq, Nat.one_shiftLeft, Nat.pow_add, ← Nat.mul_assoc]
  exact (Nat.mul_lt_mul_right (Nat.two_pow_pos e)).symm

/-- A whole number is nearest to a finite double unless it is beyond the bound. -/
theorem isFinite_nearest_iff (negative : Bool) (n : Nat) : isFinite (nearest negative n 1) = true ↔ n < wholeBound := by
  have fields := nearest_fields_lt_iff (n * unitsPerOne) (970 + 1074)
  have bound := lt_shiftLeft_iff n (4 * fractions - 1) 970 1074
  have form : isFinite (nearest negative n 1) = true ↔ _ := isFinite_rounded negative _
  rw [Nat.div_one] at form
  exact form.trans (fields.trans bound.symm)

end ChatService.Binary64
