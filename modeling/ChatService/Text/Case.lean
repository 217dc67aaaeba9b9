import ChatService.Text.Basic
import ChatService.Text.CaseTable

/-!
# Lower case

The full lower-case form of a text. A character's form does not depend on its
neighbours, with one exception: a capital sigma that ends a word becomes the final
sigma. The capital I with a dot is the one character whose form has two characters.
-/

namespace ChatService.Text

/-- The lower-case form of a character that is not a capital sigma. -/
def lowerChar (c : Char) : List Char :=
  if c.toNat < 128 then [c.toLower]
  else if c = 'İ' then ['i', '\u0307']
  else match loweringRuns.find? (·.covers c.toNat) with
    | some run => [Char.ofNat (c.toNat + run.distance).toNat]
    | none => [c]

/-- Whether the next character that is not passed over is a letter with case. -/
def meetsCased (s : List Char) : Bool :=
  match s.dropWhile (fun c => Range.anyHolds caseIgnorableRanges c.toNat) with
  | [] => false
  | c :: _ => Range.anyHolds casedRanges c.toNat

/-- The form of a capital sigma between what stands before it (last character first) and after it. -/
def lowerSigma (before after : List Char) : Char :=
  if meetsCased before && !meetsCased after then 'ς' else 'σ'

/-- The form of a character between what stands before it (last character first) and after it. -/
def lowerIn (before : List Char) (c : Char) (after : List Char) : List Char :=
  if c = 'Σ' then [lowerSigma before after] else lowerChar c

/-- Lower case of the rest of a text, given what stands before it (last character first). -/
def lowerFrom (before : List Char) : List Char → List Char
  | [] => []
  | c :: rest => lowerIn before c rest ++ lowerFrom (c :: before) rest

/-- The lower-case form of characters. -/
def lower (s : List Char) : List Char := lowerFrom [] s

/-- Lower case of the rest of a text, given what stands before it (last character first). A half stays as it
is, and shows no letter to its neighbours. -/
def loweredFrom (before : List Char) : Text → Text
  | [] => []
  | .char c :: rest => ofChars (lowerIn before c (standIns rest)) ++ loweredFrom (c :: before) rest
  | .half n :: rest => .half n :: loweredFrom ((CodePoint.half n).standIn :: before) rest

/-- The lower-case form of a text. -/
def lowered (t : Text) : Text := loweredFrom [] t

theorem loweredFrom_ofChars (before s : List Char) : loweredFrom before (ofChars s) = ofChars (lowerFrom before s) := by
  induction s generalizing before with
  | nil => rfl
  | cons c s ih =>
    show ofChars (lowerIn before c (standIns (ofChars s))) ++ loweredFrom (c :: before) (ofChars s) = _
    rw [ih, standIns_ofChars, lowerFrom]
    exact List.map_append.symm

/-- A text without halves has the lower-case form of its characters. -/
@[simp] theorem lowered_ofChars (s : List Char) : lowered (ofChars s) = ofChars (lower s) := loweredFrom_ofChars [] s

theorem lowerFrom_append (before s t : List Char) (h : 'Σ' ∉ s) :
    lowerFrom before (s ++ t) = s.flatMap lowerChar ++ lowerFrom (s.reverse ++ before) t := by
  induction s generalizing before with
  | nil => simp
  | cons c rest ih =>
    simp only [List.mem_cons, not_or] at h
    have : c ≠ 'Σ' := fun e => h.1 e.symm
    simp [lowerFrom, lowerIn, this, ih _ h.2]

end ChatService.Text
