import ChatService.Decimal.Notation
import ChatService.Text.Digit

/-!
# Calculator arithmetic

The numbers, operators and functions of the calculator on single values. Every
operation either gives a finite double or says why there is none.
-/

namespace ChatService.Calculator

inductive Function
  | sin
  | cos
  | tan
  | log
  | ln
  | sqrt
deriving DecidableEq, Repr

namespace Function

/-- All functions, in the order in which a name is looked for. -/
def all : List Function := [sin, cos, tan, log, ln, sqrt]

def name : Function → List Char
  | sin => ['s', 'i', 'n']
  | cos => ['c', 'o', 's']
  | tan => ['t', 'a', 'n']
  | log => ['l', 'o', 'g']
  | ln => ['l', 'n']
  | sqrt => ['s', 'q', 'r', 't']

/-- Logarithms want a positive argument and the square root one that is not negative. -/
def accepts : Function → Float → Bool
  | sin, _ | cos, _ | tan, _ => true
  | log, x | ln, x => 0 < x
  | sqrt, x => !(x < 0)

/-- The value at an accepted argument. `log` is the logarithm to base ten. -/
def value : Function → Float → Float
  | sin, x => x.sin
  | cos, x => x.cos
  | tan, x => x.tan
  | log, x => x.log10
  | ln, x => x.log
  | sqrt, x => x.sqrt

end Function

inductive Operator
  | add
  | sub
  | mul
  | div
  | pow
deriving DecidableEq, Repr

namespace Operator

def ofChar? : Char → Option Operator
  | '+' => some add
  | '-' => some sub
  | '*' => some mul
  | '/' => some div
  | '^' => some pow
  | _ => none

/-- How tightly an operator binds: sums loosest, powers tightest. -/
inductive Tier
  | sum
  | product
  | power
deriving DecidableEq, Repr

def tier : Operator → Tier
  | add | sub => .sum
  | mul | div => .product
  | pow => .power

/-- The tiers from the loosest to the tightest. -/
def Tier.all : List Tier := [.sum, .product, .power]

end Operator

/-- Why an expression has no value. -/
inductive Fault
  | unbalanced
  | notNumber (text : String)
  | divisionByZero
  /-- A number as written lies beyond the largest double. -/
  | numberTooLarge (text : String)
  | resultTooLarge
  /-- A power of a negative number to a fraction, or of zero to a negative number. -/
  | outsideDomain
  | functionOutsideDomain (f : Function)
  | functionTooLarge (f : Function)
deriving DecidableEq, Repr

def Fault.message : Fault → String
  | unbalanced => "unbalanced parentheses"
  | notNumber text => "cannot parse number '" ++ text ++ "'"
  | divisionByZero => "division by zero"
  | numberTooLarge text => "number '" ++ text ++ "' is too large"
  | resultTooLarge => "result is too large"
  | outsideDomain => "math domain error"
  | functionOutsideDomain f => "math domain error in " ++ String.ofList f.name ++ "()"
  | functionTooLarge f => "result of " ++ String.ofList f.name ++ "() is too large"

def finite (fault : Fault) (x : Float) : Except Fault Float :=
  if Binary64.isFinite x then .ok x else .error fault

def Function.apply (f : Function) (x : Float) : Except Fault Float :=
  if f.accepts x then finite (.functionTooLarge f) (f.value x) else .error (.functionOutsideDomain f)

/-- A power of finite doubles. It has no value where the real power is undefined, and none at zero to a
negative power. -/
def power (x y : Float) : Except Fault Float :=
  let r := x.pow y
  if Binary64.isNaN r then .error .outsideDomain
  else if !Binary64.isFinite r && x == 0 then .error .outsideDomain
  else finite .resultTooLarge r

def Operator.combine : Operator → Float → Float → Except Fault Float
  | add, x, y => finite .resultTooLarge (x + y)
  | sub, x, y => finite .resultTooLarge (x - y)
  | mul, x, y => finite .resultTooLarge (x * y)
  | div, x, y => if y == 0 then .error .divisionByZero else finite .resultTooLarge (x / y)
  | pow, x, y => power x y

/-- A number as written: a sign, digits, and the digits behind the point. -/
structure Numeral where
  negative : Bool
  whole : List Char
  places : List Char
deriving DecidableEq, Repr

namespace Numeral

/-- An optional sign, then digits with an optional point among or around them. Digits of every script
count. -/
def parse? (s : List Char) : Option Numeral :=
  let (negative, body) := match s with
    | '-' :: rest => (true, rest)
    | '+' :: rest => (false, rest)
    | _ => (false, s)
  let whole := body.takeWhile Text.isDigit
  match body.dropWhile Text.isDigit with
  | [] => if whole.isEmpty then none else some ⟨negative, whole, []⟩
  | '.' :: places =>
    if places.all Text.isDigit && !(whole.isEmpty && places.isEmpty) then some ⟨negative, whole, places⟩
    else none
  | _ :: _ => none

/-- The double nearest to the number. -/
def value (n : Numeral) : Float :=
  Binary64.nearest n.negative (Text.digitsValue (n.whole ++ n.places)) (Nat.pow 10 n.places.length)

end Numeral

def number (s : List Char) : Except Fault Float :=
  match Numeral.parse? s with
  | none => .error (.notNumber (String.ofList s))
  | some n => finite (.numberTooLarge (String.ofList s)) n.value

/-- How a value is written into a text that is read again. -/
def formatNumber (x : Float) : List Char := Binary64.plain x

theorem finite_eq_ok_iff {fault : Fault} {x y : Float} :
    finite fault x = .ok y ↔ x = y ∧ Binary64.isFinite y = true := by
  unfold finite
  split
  · next h => constructor
              · intro e; cases e; exact ⟨rfl, h⟩
              · rintro ⟨rfl, _⟩; rfl
  · next h => constructor
              · intro e; cases e
              · rintro ⟨rfl, f⟩; exact absurd f h

end ChatService.Calculator
