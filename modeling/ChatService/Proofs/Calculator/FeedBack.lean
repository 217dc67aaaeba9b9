import ChatService.Proofs.Calculator.Splicing
import ChatService.Proofs.Decimal.Value

/-!
# Feeding a result back

The text of a result is a number in full: digits, perhaps with a point among them and a minus sign in front, and
never an exponent. It denotes the result itself if that is whole and the decimal of its short form otherwise, and
as an expression it has the result as its value.
-/

namespace ChatService.Calculator

open Binary64 (withSign isFinite isNegative isWhole units unitsPerOne value)

/-- Numbers in full: a minus sign or none, digits, and digits again behind a point if there is one. -/
inductive InFull : List Char → Prop
  | whole (negative : Bool) {digits : List Char} (some : digits ≠ []) (all : ∀ c ∈ digits, c.isDigit = true) :
      InFull (withSign negative digits)
  | point (negative : Bool) {digits places : List Char} (some : digits ≠ []) (all : ∀ c ∈ digits, c.isDigit = true)
      (some' : places ≠ []) (all' : ∀ c ∈ places, c.isDigit = true) :
      InFull (withSign negative (digits ++ '.' :: places))

theorem inFull_wholeText (negative : Bool) (n : Nat) : InFull (withSign negative (Decimal.wholeText n)) :=
  .whole negative Nat.toDigits_ne_nil fun _ mem => isDigit_of_mem_wholeText mem

theorem inFull_plain (negative : Bool) (d : Decimal) : InFull (withSign negative d.plain) := by
  unfold Decimal.plain
  split
  · exact inFull_wholeText negative _
  · exact .point negative Nat.toDigits_ne_nil (fun _ mem => isDigit_of_mem_wholeText mem)
      (List.append_ne_nil_of_right_ne_nil _ Nat.toDigits_ne_nil) (fun _ mem => isDigit_of_mem_padded mem)

variable {x : Float}

theorem inFull_formatNumber (finite : isFinite x) : InFull (formatNumber x) := by
  cases whole : isWhole x with
  | true =>
    rw [formatNumber_whole finite whole]
    exact inFull_wholeText _ _
  | false =>
    rw [formatNumber_fraction finite whole]
    exact inFull_plain _ _

/-- The text of a whole number denotes the number. -/
theorem denoted?_of_whole (finite : isFinite x) (whole : isWhole x = true) :
    Numeral.denoted? (formatNumber x) = some (value x) := by
  have divides : unitsPerOne ∣ units x := Nat.dvd_of_mod_eq_zero (by simpa [isWhole] using whole)
  have one : (unitsPerOne : ℚ) ≠ 0 := Nat.cast_ne_zero.2 (Decimal.one_shiftLeft_pos 1074).ne'
  rw [formatNumber_whole finite whole, (Numeral.writes_whole _).denoted?, Binary64.value_eq finite,
    Nat.cast_div divides one]
  by_cases zero : units x = 0
  · cases isNegative x <;> simp [zero, signedValue]
  · rw [bne_iff_ne.2 zero, Bool.and_true]

/-- The text of any other number denotes what its short form denotes. -/
theorem denoted?_of_fraction (finite : isFinite x) (fraction : isWhole x = false) :
    Numeral.denoted? (formatNumber x) = Numeral.denoted? (Binary64.short x) := by
  rw [formatNumber_fraction finite fraction, (Numeral.writes_plain _).denoted?, Binary64.denoted?_short finite]

/-- The text of a finite result is a number in full. It denotes the result itself if that is whole, and the decimal of
its short form if not, and its value as an expression is the result, with 0.0 in place of -0.0. -/
theorem results_can_be_fed_back (finite : isFinite x) :
    InFull (formatNumber x) ∧
      ((∃ k : ℤ, value x = k) → Numeral.denoted? (formatNumber x) = some (value x)) ∧
      ((¬∃ k : ℤ, value x = k) →
        ∃ r, Numeral.denoted? (Binary64.short x) = some r ∧ Numeral.denoted? (formatNumber x) = some r) ∧
      evaluate (formatNumber x) = .ok (unsignedZero x) := by
  have whole := Binary64.isWhole_iff finite
  refine ⟨inFull_formatNumber finite, ?_, ?_, ?_⟩
  · exact fun some => denoted?_of_whole finite (whole.2 some)
  · intro none
    have fraction : isWhole x = false := Bool.eq_false_iff.2 fun some => none (whole.1 some)
    have short := Binary64.denoted?_short finite
    exact ⟨_, short, (denoted?_of_fraction finite fraction).trans short⟩
  · rw [evaluate_plain (isPlain_formatNumber finite), (flatText_formatNumber finite).flat_eq]

/-- One ten-millionth has an exponent in its short form and none in a result. -/
theorem results_can_be_fed_back_of_ten_millionth :
    Binary64.short (Float.ofBits 0x3E7AD7F29ABCAF48) = "1e-07".toList ∧
      formatNumber (Float.ofBits 0x3E7AD7F29ABCAF48) = "0.0000001".toList ∧ InFull "0.0000001".toList ∧
      Numeral.denoted? "0.0000001".toList = Numeral.denoted? "1e-07".toList ∧
      evaluate "0.0000001".toList = .ok (Float.ofBits 0x3E7AD7F29ABCAF48) := by
  have finite : isFinite (Float.ofBits 0x3E7AD7F29ABCAF48) = true := by decide +kernel
  have fraction : isWhole (Float.ofBits 0x3E7AD7F29ABCAF48) = false := by decide +kernel
  have short : Binary64.short (Float.ofBits 0x3E7AD7F29ABCAF48) = "1e-07".toList := by decide +kernel
  have text : formatNumber (Float.ofBits 0x3E7AD7F29ABCAF48) = "0.0000001".toList := by decide +kernel
  obtain ⟨full, -, denoted, value⟩ := results_can_be_fed_back finite
  obtain ⟨r, short', text'⟩ := denoted fun some => by
    rw [(Binary64.isWhole_iff finite).2 some] at fraction
    cases fraction
  rw [text] at full text' value
  rw [short] at short'
  refine ⟨short, text, full, text'.trans short'.symm, value.trans ?_⟩
  rw [unsignedZero, if_neg (by decide +kernel)]

end ChatService.Calculator
