import ChatService.Calculator.Arithmetic

/-!
# Expressions without parentheses

A flat expression is split at its last operator of the loosest tier that it has, and
both sides are evaluated in the same way; what has no operator is a number. So chains
fold to the left, powers included. A minus sign is part of a number at the start and
directly behind another operator.
-/

namespace ChatService.Calculator

/-- Whether a sign behind this text (last character first) belongs to a number. -/
def opensOperand : List Char → Bool
  | [] => true
  | c :: _ => (Operator.ofChar? c).isSome

/-- The operator of a tier that a character is, given the text before it (last character first). -/
def splitter? (tier : Operator.Tier) (c : Char) (before : List Char) : Option Operator :=
  match Operator.ofChar? c with
  | some op => if op.tier = tier ∧ ¬(c = '-' ∧ opensOperand before) then some op else none
  | none => none

/-- The two sides of an operator. -/
structure Split where
  left : List Char
  operator : Operator
  right : List Char

/-- The split at the last operator of a tier in a text given backwards, with what was passed over. -/
def splitBackwards (tier : Operator.Tier) : List Char → List Char → Option Split
  | [], _ => none
  | c :: before, right =>
    match splitter? tier c before with
    | some op => some ⟨before.reverse, op, right⟩
    | none => splitBackwards tier before (c :: right)

/-- The split at the last operator of the loosest tier that occurs. -/
def split? (s : List Char) : Option Split :=
  Operator.Tier.all.findSome? fun tier => splitBackwards tier s.reverse []

theorem length_splitBackwards {tier : Operator.Tier} {s right : List Char} {cut : Split}
    (h : splitBackwards tier s right = some cut) :
    cut.left.length + cut.right.length + 1 = s.length + right.length := by
  induction s generalizing right with
  | nil => simp [splitBackwards] at h
  | cons c before ih =>
    unfold splitBackwards at h
    split at h
    · cases h
      simp
      omega
    · have := ih h
      simp only [List.length_cons] at this ⊢
      omega

theorem length_split? {s : List Char} {cut : Split} (h : split? s = some cut) :
    cut.left.length + cut.right.length + 1 = s.length := by
  obtain ⟨tier, _, found⟩ := List.exists_of_findSome?_eq_some h
  simpa using length_splitBackwards found

/-- The value of an expression without parentheses. The left side is evaluated first. -/
def flat (s : List Char) : Except Fault Float :=
  match _found : split? s with
  | none => number s
  | some cut => do
    let x ← flat cut.left
    let y ← flat cut.right
    cut.operator.combine x y
termination_by s.length
decreasing_by
  all_goals
    have := length_split? _found
    omega

end ChatService.Calculator
