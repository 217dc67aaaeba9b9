import ChatService.Json.Token
import ChatService.Proofs.Text.Utf8
import ChatService.Text.PercentEncoding

/-!
# Percent encoding read back

An encoded text consists of characters that stand for themselves and of escapes with two
hexadecimal digits. Replacing each of these by its byte gives the UTF-8 form of the text,
so no two texts are encoded alike.
-/

namespace ChatService.Text

/-! ## Escaped texts -/

/-- The ASCII letters and digits, and five marks. -/
def Unreserved (c : Char) : Prop := c.isAlphanum = true ∨ c ∈ ['_', '.', '-', '~', '/']

instance (c : Char) : Decidable (Unreserved c) := inferInstanceAs (Decidable (_ ∨ _))

/-- The digits of an escape. -/
def UpperHex (c : Char) : Prop := ('0' ≤ c ∧ c ≤ '9') ∨ ('A' ≤ c ∧ c ≤ 'F')

instance (c : Char) : Decidable (UpperHex c) := inferInstanceAs (Decidable (_ ∨ _))

/-- Texts made of unreserved characters and escapes. -/
inductive Escaped : List Char → Prop
  | nil : Escaped []
  | plain {c : Char} {rest : List Char} (unreserved : Unreserved c) (tail : Escaped rest) : Escaped (c :: rest)
  | escape {high low : Char} {rest : List Char} (first : UpperHex high) (second : UpperHex low)
    (tail : Escaped rest) : Escaped ('%' :: high :: low :: rest)

/-- The bytes that a text with escapes stands for: an escape the byte of its number, any other ASCII character its
own byte. A percent sign begins an escape. -/
def unescaped? : List Char → Option (List UInt8)
  | [] => some []
  | '%' :: high :: low :: rest => do
    let high ← Json.hexValue? high
    let low ← Json.hexValue? low
    let bytes ← unescaped? rest
    return UInt8.ofNat (16 * high + low) :: bytes
  | c :: rest =>
    if c.toNat < 128 ∧ c ≠ '%' then (unescaped? rest).map (UInt8.ofNat c.toNat :: ·) else none

/-- The text that a text with escapes stands for. -/
def percentDecoded? (s : String) : Option String := (unescaped? s.toList).bind ofUtf8?

theorem unescaped?_plain {c : Char} (ascii : c.toNat < 128) (noEscape : c ≠ '%') (rest : List Char) :
    unescaped? (c :: rest) = (unescaped? rest).map (UInt8.ofNat c.toNat :: ·) := by
  rw [unescaped?]
  · exact if_pos ⟨ascii, noEscape⟩
  · intro high low rest begins
    exact absurd begins noEscape

theorem UpperHex.unreserved {c : Char} (hex : UpperHex c) : Unreserved c := by
  refine .inl ?_
  change (c.isUpper || c.isLower || c.isDigit) = true
  rcases hex with ⟨low, high⟩ | ⟨low, high⟩
  · have digit : c.isDigit = true := Bool.and_eq_true_iff.2 ⟨decide_eq_true low, decide_eq_true high⟩
    rw [digit, Bool.or_true]
  · have upper : c.isUpper = true := decide_eq_true ⟨low, Char.le_trans high (by decide)⟩
    rw [upper, Bool.true_or, Bool.true_or]

/-- A reserved character other than the percent sign does not occur in an escaped text. -/
theorem Escaped.not_mem {s : List Char} (escaped : Escaped s) {mark : Char} (reserved : ¬Unreserved mark)
    (noEscape : mark ≠ '%') : mark ∉ s := by
  induction escaped with
  | nil => exact List.not_mem_nil
  | plain unreserved _ ih =>
    rintro (_ | ⟨_, member⟩)
    · exact reserved unreserved
    · exact ih member
  | escape first second _ ih =>
    rintro (_ | ⟨_, _ | ⟨_, _ | ⟨_, member⟩⟩⟩)
    · exact noEscape rfl
    · exact reserved first.unreserved
    · exact reserved second.unreserved
    · exact ih member

/-! ## One byte -/

theorem upperHexDigit_digit {n : Nat} (small : n < 16) :
    UpperHex (upperHexDigit n) ∧ Json.hexValue? (upperHexDigit n) = some n := by
  have digits : ∀ n < 16, UpperHex (upperHexDigit n) ∧ Json.hexValue? (upperHexDigit n) = some n := by decide
  exact digits n small

/-- The bytes that are not escaped are those of unreserved characters. -/
theorem unreserved_of_isUnreserved {b : UInt8} (kept : isUnreserved b = true) :
    Unreserved (Char.ofNat b.toNat) ∧ b.toNat < 128 ∧ (Char.ofNat b.toNat).toNat = b.toNat := by
  -- Bytes and characters are compared number by number; there are 256 of them.
  have bytes : ∀ n < 256, isUnreserved (UInt8.ofNat n) = true →
      Unreserved (Char.ofNat n) ∧ n < 128 ∧ (Char.ofNat n).toNat = n := by decide +kernel
  exact bytes b.toNat b.toNat_lt (by rwa [UInt8.ofNat_toNat])

theorem escaped_percentByte (b : UInt8) {rest : List Char} (tail : Escaped rest) :
    Escaped (percentByte b ++ rest) := by
  unfold percentByte
  by_cases kept : isUnreserved b = true
  · rw [if_pos kept]
    exact .plain (unreserved_of_isUnreserved kept).1 tail
  · rw [if_neg kept]
    have bound := b.toNat_lt
    exact .escape (upperHexDigit_digit (by omega)).1 (upperHexDigit_digit (by omega)).1 tail

theorem unescaped?_percentByte (b : UInt8) (rest : List Char) :
    unescaped? (percentByte b ++ rest) = (unescaped? rest).map (b :: ·) := by
  unfold percentByte
  by_cases kept : isUnreserved b = true
  · obtain ⟨unreserved, ascii, code⟩ := unreserved_of_isUnreserved kept
    have noEscape : Char.ofNat b.toNat ≠ '%' := by
      intro escape
      rw [escape] at unreserved
      exact absurd unreserved (by decide)
    rw [if_pos kept, List.singleton_append, unescaped?_plain (by rwa [code]) noEscape, code, UInt8.ofNat_toNat]
  · have bound := b.toNat_lt
    have high := (upperHexDigit_digit (show b.toNat / 16 < 16 by omega)).2
    have low := (upperHexDigit_digit (show b.toNat % 16 < 16 by omega)).2
    rw [if_neg kept, List.cons_append, List.cons_append, List.singleton_append, unescaped?, high, low]
    have whole : 16 * (b.toNat / 16) + b.toNat % 16 = b.toNat := Nat.div_add_mod b.toNat 16
    simp only [Option.bind_eq_bind, Option.bind_some, whole, UInt8.ofNat_toNat]
    cases unescaped? rest <;> rfl

/-! ## Texts -/

theorem toList_percentEncoded (s : String) : (percentEncoded s).toList = (toUtf8 s).flatMap percentByte :=
  String.toList_ofList

theorem escaped_percentEncoded (s : String) : Escaped (percentEncoded s).toList := by
  rw [toList_percentEncoded]
  induction toUtf8 s with
  | nil => exact .nil
  | cons b bytes ih => exact escaped_percentByte b ih

theorem unescaped?_flatMap (bytes : List UInt8) : unescaped? (bytes.flatMap percentByte) = some bytes := by
  induction bytes with
  | nil => rfl
  | cons b bytes ih => rw [List.flatMap_cons, unescaped?_percentByte, ih, Option.map_some]

/-- An encoded text is read back. -/
theorem percentDecoded?_percentEncoded (s : String) : percentDecoded? (percentEncoded s) = some s := by
  rw [percentDecoded?, toList_percentEncoded, unescaped?_flatMap, Option.bind_some, ofUtf8?_toUtf8]

theorem percentEncoded_inj {s t : String} : percentEncoded s = percentEncoded t ↔ s = t := by
  constructor
  · intro same
    have read := percentDecoded?_percentEncoded s
    rw [same, percentDecoded?_percentEncoded] at read
    exact (Option.some.inj read).symm
  · rintro rfl
    rfl

end ChatService.Text
