import ChatService.Calculator.Arithmetic
import ChatService.Proofs.Decimal.ReadBack
import ChatService.Text.Blank

/-!
# Numbers in expressions

A number can be typed with a point among or around its digits. What the calculator writes for
a finite double is such a number behind an optional sign, and is read back as the double.
-/

namespace ChatService.Calculator

/-- A number as it can be typed without a sign: digits, with a point among or around them. -/
structure Unsigned where
  whole : List Char
  places : Option (List Char)
  digits : ∀ c ∈ whole ++ places.getD [], Text.isDigit c = true
  written : whole ≠ [] ∨ ∃ c rest, places = some (c :: rest)

namespace Unsigned

/-- The characters of a number. -/
def text (u : Unsigned) : List Char :=
  match u.places with
  | none => u.whole
  | some places => u.whole ++ '.' :: places

/-- The number with a sign. -/
def signed (u : Unsigned) (negative : Bool) : Numeral := ⟨negative, u.whole, u.places.getD []⟩

theorem isDigit_minus : Text.isDigit '-' = false := by decide

theorem isDigit_plus : Text.isDigit '+' = false := by decide

theorem isDigit_point : Text.isDigit '.' = false := by decide

theorem mem_text {u : Unsigned} {c : Char} (mem : c ∈ u.text) : Text.isDigit c = true ∨ c = '.' := by
  obtain ⟨whole, places, digits, written⟩ := u
  cases places with
  | none => exact .inl (digits c (List.mem_append_left _ mem))
  | some places =>
    rcases List.mem_append.1 mem with front | back
    · exact .inl (digits c (List.mem_append_left _ front))
    · rcases List.mem_cons.1 back with point | back
      · exact .inr point
      · exact .inl (digits c (List.mem_append_right _ back))

theorem head_text (u : Unsigned) : ∀ c ∈ u.text.head?, c ≠ '-' ∧ c ≠ '+' := by
  intro c head
  have kind := mem_text (List.mem_of_mem_head? head)
  refine ⟨?_, ?_⟩
  · rintro rfl
    simp [isDigit_minus] at kind
  · rintro rfl
    simp [isDigit_plus] at kind

/-- What is typed is read as it is meant. -/
theorem parse?_text (u : Unsigned) (negative : Bool) :
    Numeral.parse? (Binary64.withSign negative u.text) = some (u.signed negative) := by
  have unsigned := head_text u
  unfold Numeral.parse?
  split
  next sign body taken =>
  have parts : sign = negative ∧ body = u.text := by
    cases negative with
    | true =>
      simp only [Binary64.withSign, ↓reduceIte, Prod.mk.injEq] at taken
      exact ⟨taken.1.symm, taken.2.symm⟩
    | false =>
      simp only [Binary64.withSign, Bool.false_eq_true, ↓reduceIte] at taken
      split at taken
      · next same => simp [same] at unsigned
      · next same => simp [same] at unsigned
      · simp only [Prod.mk.injEq] at taken
        exact ⟨taken.1.symm, taken.2.symm⟩
  rw [parts.1, parts.2]
  obtain ⟨whole, places, digits, written⟩ := u
  have all : ∀ c ∈ whole, Text.isDigit c = true := fun c mem => digits c (List.mem_append_left _ mem)
  cases places with
  | none =>
    have span := Text.span_append [] all (by simp)
    have some : whole ≠ [] := by simpa using written
    rw [List.append_nil] at span
    simp [text, span.1, span.2, some, signed]
  | some places =>
    have span := Text.span_append ('.' :: places) all (by simp [isDigit_point])
    have all' : places.all Text.isDigit = true :=
      List.all_eq_true.2 fun c mem => digits c (List.mem_append_right _ mem)
    have some : whole = [] → places ≠ [] := by
      rintro rfl rfl
      simp at written
    simpa [text, span.1, span.2, all', signed] using some

end Unsigned

/-! ## Written values -/

theorem isDigit_of_mem_wholeText {n : Nat} {c : Char} (mem : c ∈ Decimal.wholeText n) : c.isDigit = true :=
  Nat.isDigit_of_mem_toDigits (by decide) (by decide) mem

theorem isDigit_of_mem_padded {width n : Nat} {c : Char} (mem : c ∈ Decimal.padded width (Decimal.wholeText n)) :
    c.isDigit = true := by
  rcases List.mem_append.1 mem with zero | digit
  · rw [List.eq_of_mem_replicate zero]
    rfl
  · exact isDigit_of_mem_wholeText digit

theorem length_padded {width n : Nat} (positive : 0 < width) (less : n < 10 ^ width) :
    (Decimal.padded width (Decimal.wholeText n)).length = width := by
  have short := (Nat.length_toDigits_le_iff (by decide) positive).2 less
  simp only [Decimal.padded, Decimal.wholeText, List.length_append, List.length_replicate]
  omega

theorem digitsValue_padded (width n : Nat) : Text.digitsValue (Decimal.padded width (Decimal.wholeText n)) = n := by
  rw [Text.digitsValue_eq fun c mem => isDigit_of_mem_padded mem, Decimal.padded, Nat.ofDigitChars_append,
    Nat.ofDigitChars_replicate_zero, Nat.mul_zero, Decimal.wholeText, Nat.ofDigitChars_ten_toDigits]

theorem digitsValue_wholeText (n : Nat) : Text.digitsValue (Decimal.wholeText n) = n := by
  rw [Text.digitsValue_eq fun c mem => isDigit_of_mem_wholeText mem, Decimal.wholeText, Nat.ofDigitChars_ten_toDigits]

/-- The digits before and behind the point make up the number. -/
theorem digitsValue_plain {n width : Nat} (positive : 0 < width) :
    Text.digitsValue (Decimal.wholeText (n / 10 ^ width) ++
      Decimal.padded width (Decimal.wholeText (n % 10 ^ width))) = n := by
  have less : n % 10 ^ width < 10 ^ width := Nat.mod_lt _ (Nat.pow_pos (by decide))
  have length := length_padded positive less
  rw [Text.digitsValue_eq, Nat.ofDigitChars_append, Nat.ofDigitChars_eq_ofDigitChars_zero, length, Decimal.wholeText,
    Nat.ofDigitChars_ten_toDigits, Decimal.padded, Nat.ofDigitChars_append, Nat.ofDigitChars_replicate_zero,
    Nat.mul_zero, Decimal.wholeText, Nat.ofDigitChars_ten_toDigits, Nat.div_add_mod]
  intro c mem
  rcases List.mem_append.1 mem with front | back
  · exact isDigit_of_mem_wholeText front
  · exact isDigit_of_mem_padded back

/-- A whole number without a point. -/
def Unsigned.ofWhole (n : Nat) : Unsigned where
  whole := Decimal.wholeText n
  places := none
  digits c mem := Text.isDigit_of_isDigit (isDigit_of_mem_wholeText (by simpa using mem))
  written := .inl Nat.toDigits_ne_nil

/-- A number with some places behind the point. -/
def Unsigned.ofPlaces (n width : Nat) : Unsigned where
  whole := Decimal.wholeText (n / 10 ^ width)
  places := some (Decimal.padded width (Decimal.wholeText (n % 10 ^ width)))
  digits c mem := by
    rcases List.mem_append.1 mem with front | back
    · exact Text.isDigit_of_isDigit (isDigit_of_mem_wholeText front)
    · exact Text.isDigit_of_isDigit (isDigit_of_mem_padded back)
  written := .inl Nat.toDigits_ne_nil

theorem value_ofWhole (n : Nat) (negative : Bool) :
    ((Unsigned.ofWhole n).signed negative).value = Binary64.nearest negative n 1 := by
  simp only [Unsigned.signed, Unsigned.ofWhole, Numeral.value, Option.getD_none, List.append_nil, digitsValue_wholeText]
  rfl

theorem value_ofPlaces (n : Nat) {width : Nat} (positive : 0 < width) (negative : Bool) :
    ((Unsigned.ofPlaces n width).signed negative).value = Binary64.nearest negative n (10 ^ width) := by
  have less : n % 10 ^ width < 10 ^ width := Nat.mod_lt _ (Nat.pow_pos (by decide))
  simp only [Unsigned.signed, Unsigned.ofPlaces, Numeral.value, Option.getD_some, digitsValue_plain positive,
    length_padded positive less, Nat.pow_eq]

/-- The text of a decimal, and what it is read as. -/
theorem plain_decimal (d : Decimal) : ∃ u : Unsigned, d.plain = u.text ∧ ∀ negative, (u.signed negative).value =
    Binary64.nearest negative (d.digits * (Decimal.powerOfTen d.exponent).1) (Decimal.powerOfTen d.exponent).2 := by
  by_cases high : 0 ≤ d.exponent
  · refine ⟨.ofWhole (d.digits * 10 ^ d.exponent.toNat), ?_, ?_⟩
    · rw [Decimal.plain, if_pos high]
      rfl
    · intro negative
      rw [value_ofWhole, Decimal.powerOfTen, if_pos high]
      rfl
  · have positive : 0 < (-d.exponent).toNat := by omega
    refine ⟨.ofPlaces d.digits (-d.exponent).toNat, ?_, ?_⟩
    · rw [Decimal.plain, if_neg high]
      rfl
    · intro negative
      rw [value_ofPlaces _ positive, Decimal.powerOfTen, if_neg high, Nat.mul_one]
      rfl

/-! ## Written doubles -/

theorem nearest_zero (negative : Bool) : Binary64.nearest negative 0 1 = Binary64.ofFields negative 0 := by
  have room : (0 * Binary64.unitsPerOne / 1).log2 - 52 = 0 := by rw [Nat.zero_mul]; decide
  simp only [Binary64.nearest, room]
  rw [Nat.zero_mul]
  rfl

theorem fieldBits_of_units {x : Float} (zero : Binary64.units x = 0) : Binary64.fieldBits x = 0 := by
  rw [Binary64.units_eq, Nat.mul_eq_zero, or_iff_left (Nat.two_pow_pos _).ne'] at zero
  have close : Binary64.spacing x = 0 := by
    by_contra spaced
    have least := Binary64.le_significand (Nat.pos_of_ne_zero spaced)
    rw [zero] at least
    exact absurd least (by decide)
  rw [Binary64.fieldBits_eq, zero, close, Nat.zero_mul]

/-- A whole number lies in its own interval. -/
theorem holds_whole {x : Float} (nonzero : Binary64.units x ≠ 0) (whole : Binary64.isWhole x = true) :
    (Decimal.Target.ofFloat x).holds (Binary64.units x / Binary64.unitsPerOne) 1 = true := by
  have divides : Binary64.unitsPerOne ∣ Binary64.units x :=
    Nat.dvd_of_mod_eq_zero (by simpa [Binary64.isWhole] using whole)
  have size : Binary64.units x / Binary64.unitsPerOne * (Decimal.Target.ofFloat x).den =
      (Decimal.Target.ofFloat x).num := by
    change Binary64.units x / Binary64.unitsPerOne * (4 * Binary64.unitsPerOne) = 4 * Binary64.units x
    rw [Nat.mul_left_comm, Nat.div_mul_cancel divides]
  have below := Decimal.num_sub_low nonzero
  have above := Decimal.high_sub_num (x := x)
  have step_pos := Nat.two_pow_pos (Binary64.spacing x)
  apply Decimal.holds_of_lt
  · rw [size, Nat.mul_one]
    split at below <;> omega
  · rw [size, Nat.mul_one]
    omega

/-- A whole number is written with all its digits, zero without a sign. -/
theorem formatNumber_whole {x : Float} (finite : Binary64.isFinite x) (whole : Binary64.isWhole x = true) :
    formatNumber x = Binary64.withSign (Binary64.isNegative x && Binary64.units x != 0)
      (Decimal.wholeText (Binary64.units x / Binary64.unitsPerOne)) := by
  by_cases zero : Binary64.units x = 0
  · simp [formatNumber, Binary64.plain, finite, zero, Binary64.withSign]
    rfl
  · have signed : (Binary64.units x != 0) = true := bne_iff_ne.2 zero
    simp only [formatNumber, Binary64.plain, finite, zero, whole, signed, Bool.and_true, Bool.not_true,
      Bool.false_eq_true, ↓reduceIte]

theorem units_ne_zero_of_fraction {x : Float} (fraction : Binary64.isWhole x = false) : Binary64.units x ≠ 0 := by
  intro zero
  simp [Binary64.isWhole, zero] at fraction

/-- Any other number is written with its shortest digits. -/
theorem formatNumber_fraction {x : Float} (finite : Binary64.isFinite x) (fraction : Binary64.isWhole x = false) :
    formatNumber x = Binary64.withSign (Binary64.isNegative x) (Decimal.shortest x).plain := by
  have nonzero := units_ne_zero_of_fraction fraction
  simp only [formatNumber, Binary64.plain, finite, nonzero, fraction, Bool.not_true, Bool.false_eq_true, ↓reduceIte]

/-- The text of a finite double is a number, which is read as the double with the sign before it. -/
theorem formatNumber_eq {x : Float} (finite : Binary64.isFinite x) :
    ∃ u : Unsigned, formatNumber x = Binary64.withSign (Binary64.isNegative x && Binary64.units x != 0) u.text ∧
      ∀ negative, (u.signed negative).value = Binary64.ofFields negative (Binary64.fieldBits x) := by
  cases whole : Binary64.isWhole x with
  | true =>
    refine ⟨.ofWhole (Binary64.units x / Binary64.unitsPerOne), formatNumber_whole finite whole, ?_⟩
    intro negative
    rw [value_ofWhole]
    by_cases zero : Binary64.units x = 0
    · rw [zero, Nat.zero_div, nearest_zero, fieldBits_of_units zero]
    · exact Binary64.nearest_of_holds finite Nat.one_pos (holds_whole zero whole)
  | false =>
    have nonzero := units_ne_zero_of_fraction whole
    obtain ⟨u, text, value⟩ := plain_decimal (Decimal.shortest x)
    refine ⟨u, ?_, ?_⟩
    · rw [formatNumber_fraction finite whole, text, bne_iff_ne.2 nonzero, Bool.and_true]
    · intro negative
      rw [value]
      exact Binary64.nearest_of_holds finite (Decimal.powerOfTen_snd_pos _) (Decimal.shortest_holds nonzero)

/-- A double with 0.0 in place of -0.0. -/
def unsignedZero (x : Float) : Float := if Binary64.units x = 0 then Float.ofBits 0 else x

/-- Reading a finite double back. -/
theorem number_text {x : Float} (finite : Binary64.isFinite x) {u : Unsigned}
    (value : ∀ negative, (u.signed negative).value = Binary64.ofFields negative (Binary64.fieldBits x)) (negative : Bool) :
    number (Binary64.withSign negative u.text) = .ok (Binary64.ofFields negative (Binary64.fieldBits x)) := by
  have finite' : Binary64.isFinite (Binary64.ofFields negative (Binary64.fieldBits x)) = true :=
    Binary64.isFinite_ofFields (Binary64.isFinite_iff.1 finite)
  simp only [number, u.parse?_text negative, value negative, ChatService.Calculator.finite, finite', ↓reduceIte]

/-- What is written for a finite double reads back as the double. -/
theorem number_formatNumber {x : Float} (finite : Binary64.isFinite x) :
    number (formatNumber x) = .ok (unsignedZero x) := by
  obtain ⟨u, text, value⟩ := formatNumber_eq finite
  rw [text, number_text finite value, unsignedZero]
  split
  · next zero =>
    rw [zero, fieldBits_of_units zero]
    simp
    rfl
  · next nonzero =>
    rw [bne_iff_ne.2 nonzero, Bool.and_true, Binary64.ofFields_fieldBits finite]

end ChatService.Calculator
