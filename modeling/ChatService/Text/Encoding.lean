import ChatService.Text.Basic

/-!
# Encoding texts

A text with a half that stands alone has no bytes. What is said about it names the first
half, or the first halves where several stand together.
-/

namespace ChatService

/-- Why a text cannot be encoded. -/
structure EncodeFault where
  /-- How many characters stand before the first half. -/
  position : Nat
  first : CodePoint
  /-- How many halves follow the first one without a gap. -/
  more : Nat
deriving DecidableEq, Repr

namespace EncodeFault

/-- The halves that stand together, inside a sentence. -/
def place (f : EncodeFault) : String :=
  if f.more = 0 then
    "character '\\u" ++ String.ofList (Nat.toDigits 16 f.first.value) ++ "' in position " ++ toString f.position
  else "characters in position " ++ toString f.position ++ "-" ++ toString (f.position + f.more)

def message (f : EncodeFault) : String := "'utf-8' codec can't encode " ++ f.place ++ ": surrogates not allowed"

end EncodeFault

namespace Text

/-- What is wrong with a text that begins its first halves behind a number of characters. -/
def encodeFault (t : Text) : EncodeFault :=
  let halves := t.dropWhile fun c => !c.isHalf
  ⟨(t.takeWhile fun c => !c.isHalf).length, halves.headD (.half 0), (halves.tail.takeWhile (·.isHalf)).length⟩

/-- The string whose bytes stand for a text. -/
def encode (t : Text) : Except EncodeFault String :=
  match t.string? with
  | some s => .ok s
  | none => .error t.encodeFault

@[simp] theorem encode_ofString (s : String) : encode (ofString s) = .ok s := by simp [encode]

/-- Exactly the strings can be encoded. -/
theorem encode_eq_ok_iff {t : Text} {s : String} : encode t = .ok s ↔ t = ofString s := by
  unfold encode
  split
  · next r found => rw [Except.ok.injEq, string?_eq_some_iff.1 found, ofString_inj]
  · next none =>
    constructor
    · intro h
      cases h
    · rintro rfl
      simp at none

theorem isHalf_of_mem_ofString {c : CodePoint} {s : String} (member : c ∈ ofString s) : c.isHalf = false := by
  obtain ⟨d, -, rfl⟩ := List.mem_map.1 member
  rfl

/-- The strings are the texts without halves. -/
theorem exists_ofString_iff {t : Text} : (∃ s, t = ofString s) ↔ ∀ c ∈ t, c.isHalf = false := by
  constructor
  · rintro ⟨s, rfl⟩ c
    exact isHalf_of_mem_ofString
  · intro whole
    induction t with
    | nil => exact ⟨"", rfl⟩
    | cons c rest ih =>
      obtain ⟨s, rfl⟩ := ih fun d member => whole d (List.mem_cons_of_mem _ member)
      cases c with
      | char c => exact ⟨String.ofList (c :: s.toList), by rw [ofString_ofList]; rfl⟩
      | half n => cases whole _ (List.mem_cons_self ..)

end Text

end ChatService
