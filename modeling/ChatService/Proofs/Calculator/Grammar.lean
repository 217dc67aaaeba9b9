import ChatService.Calculator.Evaluate
import ChatService.Failure
import ChatService.Proofs.Calculator.Numeral

/-!
# Expressions as trees

The grammar of expressions: sums of products of powers of atoms, every chain folded to the
left. An atom is a number or a constant with an optional minus sign, a group in parentheses,
or a function of such a group.
-/

namespace ChatService.Calculator

/-- The kind of failure that a fault is. -/
def Fault.kind : Fault → FailureKind
  | unbalanced | notNumber _ => .expressionSyntax
  | divisionByZero => .divideByZero
  | numberTooLarge _ | resultTooLarge | outsideDomain | functionOutsideDomain _ | functionTooLarge _ => .evaluation

theorem evaluation_mem_lineage (fault : Fault) : FailureKind.evaluation ∈ fault.kind.lineage := by
  cases fault <;> simp [Fault.kind, FailureKind.lineage]

/-- The levels of the grammar: atoms, and the chains of each tier. -/
inductive Level
  | atom
  | chain (tier : Operator.Tier)
deriving DecidableEq

namespace Operator

/-- What the chains of a tier are made of. -/
def Tier.operand : Tier → Level
  | sum => .chain product
  | product => .chain power
  | power => .atom

/-- The character of an operator. -/
def char : Operator → Char
  | add => '+'
  | sub => '-'
  | mul => '*'
  | div => '/'
  | pow => '^'

@[simp] theorem ofChar?_char (op : Operator) : ofChar? op.char = some op := by
  cases op <;> rfl

theorem eq_char_of_ofChar? {c : Char} {op : Operator} (found : ofChar? c = some op) : c = op.char := by
  unfold ofChar? at found
  split at found <;> cases found <;> rfl

end Operator

/-- The fields of the circle constant. -/
def circleFields : Nat := 0x400921FB54442D18

/-- The fields of the base of the natural logarithm. -/
def eulerFields : Nat := 0x4005BF0A8B145769

/-- A number or a constant, without its sign. -/
inductive Literal
  | number (u : Unsigned)
  | pi
  | euler

namespace Literal

/-- How a literal is typed, in lower case. -/
def word : Literal → List Char
  | number u => u.text
  | pi => ['p', 'i']
  | euler => ['e']

/-- The number that stands for a literal in the text that is evaluated. -/
def text : Literal → List Char
  | number u => u.text
  | pi => piText
  | euler => eulerText

/-- The value of a literal with its sign. -/
def value (negative : Bool) : Literal → Except Fault Float
  | number u => Calculator.number (Binary64.withSign negative u.text)
  | pi => .ok (Binary64.ofFields negative circleFields)
  | euler => .ok (Binary64.ofFields negative eulerFields)

end Literal

/-- The derivations of the grammar, by level. -/
inductive Tree : Level → Type
  | literal (negative : Bool) (l : Literal) : Tree .atom
  | group (inner : Tree (.chain .sum)) : Tree .atom
  | call (f : Function) (inner : Tree (.chain .sum)) : Tree .atom
  | lift {tier : Operator.Tier} (operand : Tree tier.operand) : Tree (.chain tier)
  | chain (op : Operator) (left : Tree (.chain op.tier)) (right : Tree op.tier.operand) : Tree (.chain op.tier)

namespace Tree

variable {level : Level}

/-- The tokens of an expression, in lower case. -/
def tokens {level : Level} : Tree level → List (List Char)
  | literal negative l => (if negative then [['-']] else []) ++ [l.word]
  | group inner => ['('] :: inner.tokens ++ [[')']]
  | call f inner => f.name :: ['('] :: inner.tokens ++ [[')']]
  | lift operand => operand.tokens
  | chain op left right => left.tokens ++ [op.char] :: right.tokens

/-- The text of an expression with the constants written out. -/
def text {level : Level} : Tree level → List Char
  | literal negative l => Binary64.withSign negative l.text
  | group inner => '(' :: inner.text ++ [')']
  | call f inner => f.name ++ '(' :: inner.text ++ [')']
  | lift operand => operand.text
  | chain op left right => left.text ++ op.char :: right.text

/-- The value of an expression, from the bottom up. A group and a call that come to -0.0 count as 0.0. -/
def eval {level : Level} : Tree level → Except Fault Float
  | literal negative l => l.value negative
  | group inner => inner.eval.map unsignedZero
  | call f inner => do
    let x ← inner.eval
    (f.apply x).map unsignedZero
  | lift operand => operand.eval
  | chain op left right => do
    let x ← left.eval
    let y ← right.eval
    op.combine x y

end Tree

/-- The nodes of an expression. -/
inductive Tree.Node : {level level' : Level} → Tree level → Tree level' → Prop
  | root {level : Level} (t : Tree level) : Node t t
  | group {level : Level} {node : Tree level} {inner : Tree (.chain .sum)} (within : Node node inner) :
      Node node (.group inner)
  | call {level : Level} {node : Tree level} (f : Function) {inner : Tree (.chain .sum)} (within : Node node inner) :
      Node node (.call f inner)
  | lift {level : Level} {node : Tree level} {tier : Operator.Tier} {operand : Tree tier.operand}
      (within : Node node operand) : Node node (.lift operand)
  | left {level : Level} {node : Tree level} (op : Operator) {left : Tree (.chain op.tier)}
      (right : Tree op.tier.operand) (within : Node node left) : Node node (.chain op left right)
  | right {level : Level} {node : Tree level} (op : Operator) (left : Tree (.chain op.tier))
      {right : Tree op.tier.operand} (within : Node node right) : Node node (.chain op left right)

/-- An expression with a node that fails has no value. -/
theorem Tree.Node.eval_error {level level' : Level} {node : Tree level} {t : Tree level'} (within : Node node t)
    {fault : Fault} (failed : node.eval = .error fault) : ∃ fault, t.eval = .error fault := by
  induction within with
  | root t => exact ⟨fault, failed⟩
  | group _ ih =>
    obtain ⟨fault, none⟩ := ih failed
    exact ⟨fault, by rw [eval, none]; rfl⟩
  | call f _ ih =>
    obtain ⟨fault, none⟩ := ih failed
    exact ⟨fault, by rw [eval, none]; rfl⟩
  | lift _ ih => exact ih failed
  | left op right _ ih =>
    obtain ⟨fault, none⟩ := ih failed
    exact ⟨fault, by rw [eval, none]; rfl⟩
  | right op left _ ih =>
    obtain ⟨fault, none⟩ := ih failed
    cases first : left.eval with
    | error fault => exact ⟨fault, by rw [eval, first]; rfl⟩
    | ok x => exact ⟨fault, by rw [eval, first, none]; rfl⟩

end ChatService.Calculator
