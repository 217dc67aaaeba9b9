import ChatService.Proofs.Calculator.Grammar

/-!
# Flat expressions

An expression without groups is split at its last operator of the loosest tier that it has.
Looking for that operator from the right passes over the operands, whose own operators are
tighter, and over a minus sign that belongs to a number.
-/

namespace ChatService.Calculator

/-- How tightly a tier binds. -/
def Operator.Tier.rank : Operator.Tier → Nat
  | sum => 0
  | product => 1
  | power => 2

/-- The operators that can stand outside of groups at a level are those of this rank or above. -/
def Level.rank : Level → Nat
  | atom => 3
  | chain tier => tier.rank

theorem rank_operand (tier : Operator.Tier) : tier.operand.rank = tier.rank + 1 := by
  cases tier <;> rfl

/-- Texts without groups, by level, with their values. -/
inductive FlatText : Level → List Char → Except Fault Float → Prop
  | literal (negative : Bool) (u : Unsigned) :
      FlatText .atom (Binary64.withSign negative u.text) (number (Binary64.withSign negative u.text))
  | lift {tier : Operator.Tier} {text : List Char} {value : Except Fault Float}
      (operand : FlatText tier.operand text value) : FlatText (.chain tier) text value
  | chain (op : Operator) {left right : List Char} {x y : Except Fault Float}
      (first : FlatText (.chain op.tier) left x) (last : FlatText op.tier.operand right y) :
      FlatText (.chain op.tier) (left ++ op.char :: right) (x >>= fun x => y >>= fun y => op.combine x y)

/-! ## The end of a text -/

theorem ofChar?_of_mem_text {u : Unsigned} {c : Char} (mem : c ∈ u.text) : Operator.ofChar? c = none := by
  rw [Option.eq_none_iff_forall_ne_some]
  intro op found
  have same := Operator.eq_char_of_ofChar? found
  subst same
  rcases Unsigned.mem_text mem with digit | point
  · cases op <;> exact absurd digit (by decide)
  · cases op <;> exact absurd point (by decide)

theorem text_ne_nil (u : Unsigned) : u.text ≠ [] := by
  obtain ⟨whole, places, digits, written⟩ := u
  cases places with
  | none => simpa [Unsigned.text] using written
  | some places => simp [Unsigned.text]

variable {level : Level} {text : List Char} {value : Except Fault Float}

/-- A text ends with an operand, so that an operator may follow. -/
theorem FlatText.closes (flat : FlatText level text value) (before : List Char) :
    opensOperand (text.reverse ++ before) = false := by
  induction flat generalizing before with
  | literal negative u =>
    have ends (before : List Char) : opensOperand (u.text.reverse ++ before) = false := by
      obtain ⟨c, rest, form⟩ := List.exists_cons_of_ne_nil (List.reverse_ne_nil_iff.2 (text_ne_nil u))
      have mem : c ∈ u.text := List.mem_reverse.1 (form ▸ List.mem_cons_self ..)
      rw [form, List.cons_append, opensOperand, ofChar?_of_mem_text mem]
      rfl
    cases negative with
    | false => exact ends before
    | true =>
      rw [Binary64.withSign, if_pos rfl, List.reverse_cons, List.append_assoc]
      exact ends _
  | lift operand ih => exact ih before
  | chain op first last _ ih =>
    rw [List.reverse_append, List.reverse_cons, List.append_assoc, List.append_assoc]
    exact ih _

/-! ## Passing over a text -/

theorem splitBackwards_pass {tier : Operator.Tier} {s : List Char} (none : ∀ c ∈ s, Operator.ofChar? c = none)
    (before right : List Char) :
    splitBackwards tier (s.reverse ++ before) right = splitBackwards tier before (s ++ right) := by
  induction s generalizing before with
  | nil => rfl
  | cons c s ih =>
    rw [List.reverse_cons, List.append_assoc, ih (fun d mem => none d (List.mem_cons_of_mem _ mem)), List.cons_append]
    have stays : splitter? tier c before = .none := by rw [splitter?, none c (List.mem_cons_self ..)]
    rw [List.nil_append, splitBackwards, stays]
    rfl

theorem opensOperand_char (op : Operator) (before : List Char) : opensOperand (op.char :: before) = true := by
  rw [opensOperand, Operator.ofChar?_char]
  rfl

theorem splitter?_of_ne {tier : Operator.Tier} {op : Operator} (other : op.tier ≠ tier) (before : List Char) :
    splitter? tier op.char before = none := by
  rw [splitter?, Operator.ofChar?_char]
  exact if_neg fun both => other both.1

theorem splitter?_self (op : Operator) {before : List Char} (closed : opensOperand before = false) :
    splitter? op.tier op.char before = some op := by
  rw [splitter?, Operator.ofChar?_char]
  exact if_pos ⟨rfl, by simp [closed]⟩

theorem splitter?_minus (tier : Operator.Tier) {before : List Char} (opens : opensOperand before = true) :
    splitter? tier '-' before = none :=
  if_neg fun both => both.2 ⟨rfl, opens⟩

theorem reverse_chain (left right before : List Char) (op : Operator) :
    (left ++ op.char :: right).reverse ++ before = right.reverse ++ op.char :: (left.reverse ++ before) := by
  simp

/-- The search for an operator of a looser tier passes over a text that stands where an operand opens. -/
theorem FlatText.passes (flat : FlatText level text value) {tier : Operator.Tier} (looser : tier.rank < level.rank)
    {before : List Char} (opens : opensOperand before = true) (right : List Char) :
    splitBackwards tier (text.reverse ++ before) right = splitBackwards tier before (text ++ right) := by
  induction flat generalizing before right with
  | literal negative u =>
    have body (before : List Char) : splitBackwards tier (u.text.reverse ++ before) right =
        splitBackwards tier before (u.text ++ right) :=
      splitBackwards_pass (fun c mem => ofChar?_of_mem_text mem) before right
    cases negative with
    | false => exact body before
    | true =>
      rw [Binary64.withSign, if_pos rfl, List.reverse_cons, List.append_assoc, body, List.singleton_append,
        splitBackwards, splitter?_minus tier opens]
      rfl
  | lift operand ih =>
    refine ih ?_ opens right
    rw [rank_operand]
    exact Nat.lt_succ_of_lt looser
  | chain op first last first_ih last_ih =>
    have other : op.tier ≠ tier := by
      rintro rfl
      exact Nat.lt_irrefl _ looser
    have looser' : tier.rank < op.tier.operand.rank := by
      rw [rank_operand]
      exact Nat.lt_succ_of_lt looser
    rw [reverse_chain, last_ih looser' (opensOperand_char op _), splitBackwards, splitter?_of_ne other]
    simp only
    rw [first_ih looser opens, List.append_assoc, List.cons_append]

/-- A chain is split at its last operator. -/
theorem FlatText.splits (op : Operator) {left right : List Char} {x y : Except Fault Float}
    (first : FlatText (.chain op.tier) left x) (last : FlatText op.tier.operand right y) :
    splitBackwards op.tier (left ++ op.char :: right).reverse [] = some ⟨left, op, right⟩ := by
  have tighter : op.tier.rank < op.tier.operand.rank := by
    rw [rank_operand]
    exact Nat.lt_succ_self _
  have closed := first.closes []
  rw [List.append_nil] at closed
  have form := reverse_chain left right [] op
  rw [List.append_nil, List.append_nil] at form
  rw [form, last.passes tighter (opensOperand_char op _), List.append_nil, splitBackwards, splitter?_self op closed]
  simp

theorem FlatText.unsplit (flat : FlatText level text value) {tier : Operator.Tier} (looser : tier.rank < level.rank) :
    splitBackwards tier text.reverse [] = none := by
  have passed := flat.passes looser (show opensOperand [] = true from rfl) []
  rwa [List.append_nil] at passed

theorem FlatText.split?_atom (flat : FlatText .atom text value) : split? text = none := by
  rw [split?, List.findSome?_eq_none_iff]
  intro tier _
  exact flat.unsplit (by cases tier <;> decide)

theorem FlatText.split?_chain (op : Operator) {left right : List Char} {x y : Except Fault Float}
    (first : FlatText (.chain op.tier) left x) (last : FlatText op.tier.operand right y) :
    split? (left ++ op.char :: right) = some ⟨left, op, right⟩ := by
  have found := FlatText.splits op first last
  have looser (tier : Operator.Tier) (less : tier.rank < op.tier.rank) :=
    (FlatText.chain op first last).unsplit less
  simp only [split?, Operator.Tier.all, List.findSome?_cons]
  generalize op.tier = tier at found looser
  cases tier with
  | sum => rw [found]
  | product => rw [looser .sum (by decide), found]
  | power => rw [looser .sum (by decide), looser .product (by decide), found]

/-- The value of a flat text is that of its chains, folded to the left. -/
theorem FlatText.flat_eq (flat : FlatText level text value) : Calculator.flat text = value := by
  induction flat with
  | literal negative u =>
    have none := (FlatText.literal negative u).split?_atom
    unfold Calculator.flat
    split
    · rfl
    · next cut found =>
      rw [none] at found
      cases found
  | lift operand ih => exact ih
  | chain op first last first_ih last_ih =>
    have found := FlatText.split?_chain op first last
    unfold Calculator.flat
    split
    · next none =>
      rw [found] at none
      cases none
    · next cut same =>
      cases found.symm.trans same
      rw [first_ih, last_ih]

end ChatService.Calculator
