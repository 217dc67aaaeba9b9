/-!
# Texts

A text of the chat is a sequence of code points, as it comes out of a structured value. Most of them are
characters, but a half of a UTF-16 pair may stand alone. Strings are the texts without such halves; a string is
read as a text where one is expected.
-/

namespace ChatService

/-- A code point: a character, or a half of a UTF-16 pair that stands alone, by its distance from U+D800. -/
inductive CodePoint
  | char (c : Char)
  | half (n : Fin 2048)
deriving DecidableEq, Repr

namespace CodePoint

def value : CodePoint → Nat
  | char c => c.toNat
  | half n => 0xD800 + n

/-- The code point of a number. -/
def ofNat (n : Nat) : CodePoint :=
  if lone : 0xD800 ≤ n ∧ n < 0xE000 then half ⟨n - 0xD800, by omega⟩ else char (Char.ofNat n)

/-- The character that counts for a code point where only the kind of a character matters. -/
def standIn : CodePoint → Char
  | char c => c
  | half _ => '\uFFFD'

def isHalf : CodePoint → Bool
  | char _ => false
  | half _ => true

theorem toNat_of_char (c : Char) : c.toNat < 0xD800 ∨ 0xE000 ≤ c.toNat := by
  rcases c.valid with low | high
  · exact .inl low
  · exact .inr high.1

theorem value_injective {a b : CodePoint} (same : a.value = b.value) : a = b := by
  cases a with
  | char c =>
    cases b with
    | char d => exact congrArg char (Char.ext (UInt32.toNat_inj.1 same))
    | half n =>
      have := toNat_of_char c
      simp only [value] at same
      omega
  | half n =>
    cases b with
    | char d =>
      have := toNat_of_char d
      simp only [value] at same
      omega
    | half m =>
      have same : n = m := Fin.ext (Nat.add_left_cancel same)
      rw [same]

/-! Code points are ordered by their numbers. -/

instance : LT CodePoint := ⟨fun a b => a.value < b.value⟩

instance : LE CodePoint := ⟨fun a b => a.value ≤ b.value⟩

instance : DecidableLT CodePoint := fun a b => inferInstanceAs (Decidable (a.value < b.value))

instance : Std.IsLinearOrder CodePoint where
  le_refl a := Nat.le_refl a.value
  le_trans _ _ _ := Nat.le_trans
  le_antisymm _ _ le ge := value_injective (Nat.le_antisymm le ge)
  le_total a b := Nat.le_total a.value b.value

instance : Std.LawfulOrderLT CodePoint where
  lt_iff a b := show a.value < b.value ↔ a.value ≤ b.value ∧ ¬ b.value ≤ a.value by omega

end CodePoint

/-- What lists are texts of: characters and code points, each with its number. -/
class Coded (α : Type) where
  code : α → Nat

instance : Coded Char := ⟨Char.toNat⟩

instance : Coded CodePoint := ⟨CodePoint.value⟩

@[simp] theorem code_char (c : Char) : Coded.code c = c.toNat := rfl

/-- What users write and read. -/
abbrev Text := List CodePoint

namespace Text

def ofChars (s : List Char) : Text := s.map .char

def ofString (s : String) : Text := ofChars s.toList

instance : Coe String Text := ⟨ofString⟩

/-- The characters of a text, if it holds nothing else. -/
def chars? : Text → Option (List Char)
  | [] => some []
  | .char c :: rest => (chars? rest).map (c :: ·)
  | .half _ :: _ => none

/-- The string that a text is, if it holds no half. -/
def string? (t : Text) : Option String := (chars? t).map String.ofList

/-- A text with a character in place of every half. -/
def standIns (t : Text) : List Char := t.map CodePoint.standIn

/-- Texts put one after the other with a separator between neighbours. -/
def join (separator : Text) (parts : List Text) : Text := separator.intercalate parts

theorem ofChars_injective {a b : List Char} (same : ofChars a = ofChars b) : a = b := by
  induction a generalizing b with
  | nil =>
    cases b with
    | nil => rfl
    | cons d b => cases same
  | cons c a ih =>
    cases b with
    | nil => cases same
    | cons d b =>
      injection same with here rest
      injection here with here
      rw [here, ih rest]

@[simp] theorem ofString_inj {a b : String} : ofString a = ofString b ↔ a = b :=
  ⟨fun same => String.toList_inj.1 (ofChars_injective same), fun same => same ▸ rfl⟩

theorem ofString_empty : ofString "" = [] := rfl

@[simp] theorem ofString_eq_nil {s : String} : ofString s = [] ↔ s = "" := by
  rw [← ofString_empty, ofString_inj]

@[simp] theorem ofString_ofList (s : List Char) : ofString (String.ofList s) = ofChars s := by
  simp [ofString]

@[simp] theorem chars?_ofChars (s : List Char) : chars? (ofChars s) = some s := by
  induction s with
  | nil => rfl
  | cons c s ih =>
    show (chars? (ofChars s)).map (c :: ·) = _
    rw [ih]
    rfl

theorem chars?_eq_some_iff {t : Text} {s : List Char} : chars? t = some s ↔ t = ofChars s := by
  constructor
  · intro found
    induction t generalizing s with
    | nil =>
      cases found
      rfl
    | cons c t ih =>
      cases c with
      | char c =>
        obtain ⟨rest, behind, rfl⟩ := Option.map_eq_some_iff.1 found
        rw [ih behind]
        rfl
      | half n => cases found
  · rintro rfl
    exact chars?_ofChars s

@[simp] theorem string?_ofString (s : String) : string? (ofString s) = some s := by
  simp [string?, ofString]

theorem string?_eq_some_iff {t : Text} {s : String} : string? t = some s ↔ t = ofString s := by
  constructor
  · intro found
    obtain ⟨chars, read, rfl⟩ := Option.map_eq_some_iff.1 found
    rw [chars?_eq_some_iff.1 read, ofString_ofList]
  · rintro rfl
    exact string?_ofString s

@[simp] theorem standIns_ofChars (s : List Char) : standIns (ofChars s) = s := by
  simp [standIns, ofChars, Function.comp_def, CodePoint.standIn]

end Text

end ChatService
