import ChatService.Decimal.Binary64

/-!
# The shortest decimal

Among the decimals that lie closer to a double than to any other, `Decimal.shortest`
takes one with the fewest digits, and of those the nearest to the double; of two
equally near ones the one with the even last digit. The search is exact: everything
is compared as whole numbers.
-/

namespace ChatService

/-- The number `digits * 10 ^ exponent`. -/
structure Decimal where
  digits : Nat
  exponent : Int
deriving DecidableEq, Repr

namespace Decimal

/-- A positive number `num / den` together with the interval of numbers that round to it. -/
structure Target where
  num : Nat
  low : Nat
  high : Nat
  den : Nat
  /-- The ends of the interval round to the number as well. -/
  closed : Bool

/-- The interval of a finite double other than zero. Its ends lie half way to the neighbours; below a power
of two the neighbour is only half as far. -/
def Target.ofFloat (x : Float) : Target :=
  let step := 1 <<< Binary64.spacing x
  let narrow := Binary64.significand x = Binary64.fractions ∧ 0 < Binary64.spacing x
  { num := 4 * Binary64.units x
    low := 4 * Binary64.units x - (if narrow then step else 2 * step)
    high := 4 * Binary64.units x + 2 * step
    den := 4 * Binary64.unitsPerOne
    closed := Binary64.significand x % 2 = 0 }

/-- Whether `p / q` lies in the interval. -/
def Target.holds (t : Target) (p q : Nat) : Bool :=
  if t.closed then t.low * q ≤ p * t.den && p * t.den ≤ t.high * q
  else t.low * q < p * t.den && p * t.den < t.high * q

/-- The decimal point's place as a fraction: `10 ^ exponent` over one. -/
def powerOfTen (exponent : Int) : Nat × Nat :=
  if 0 ≤ exponent then (Nat.pow 10 exponent.toNat, 1) else (1, Nat.pow 10 (-exponent).toNat)

/-- The multiple of `10 ^ exponent` in the interval that is nearest to the number, if there is one. -/
def Target.multiple? (t : Target) (exponent : Int) : Option Nat :=
  let (up, down) := powerOfTen exponent
  let num := t.num * down
  let den := t.den * up
  let below := num / den
  let above := below + 1
  let hit d := t.holds (d * up) down
  let twice := 2 * (num % den)
  match hit below, hit above with
  | true, true =>
    some (if twice < den then below
      else if den < twice then above
      else if below % 2 = 0 then below else above)
  | true, false => some below
  | false, true => some above
  | false, false => none

/-- How often a number can be multiplied by ten until it is one or more; at most `fuel` times. -/
def leadingZeros (fuel num den : Nat) : Nat :=
  match fuel with
  | 0 => 0
  | fuel + 1 => if den ≤ num then 0 else leadingZeros fuel (10 * num) den + 1

/-- The exponent of the leading decimal digit. -/
def leadingExponent (num den : Nat) : Int :=
  if den ≤ num then ((Nat.toDigits 10 (num / den)).length : Int) - 1
  else -(leadingZeros 400 num den : Int)

/-- The first grid of multiples that has a point in the interval, from `exponent` down. -/
def Target.search (t : Target) : (more : Nat) → (exponent : Int) → Decimal
  | 0, exponent => ⟨(t.multiple? exponent).getD 0, exponent⟩
  | more + 1, exponent =>
    match t.multiple? exponent with
    | some digits => ⟨digits, exponent⟩
    | none => t.search more (exponent - 1)

/-- The decimal with the fewest digits that reads back as a finite double's size. The first grid is the one
above the leading digit, whose only candidate is a power of ten. -/
def shortest (x : Float) : Decimal :=
  if Binary64.units x = 0 then ⟨0, 0⟩
  else
    let t := Target.ofFloat x
    t.search 17 (leadingExponent t.num t.den + 1)

end Decimal

end ChatService
