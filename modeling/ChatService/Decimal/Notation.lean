import ChatService.Decimal.Shortest

/-!
# Writing numbers

Three ways to write a double: in full without an exponent (`plain`), in the short
form that turns to an exponent for very large and very small numbers (`short`), and
with a fixed number of places (`fixed`).
-/

namespace ChatService

namespace Decimal

/-- A whole number's digits. -/
def wholeText (n : Nat) : List Char := Nat.toDigits 10 n

/-- A run of digits filled up with zeros on the left. -/
def padded (width : Nat) (digits : List Char) : List Char :=
  List.replicate (width - digits.length) '0' ++ digits

/-- Decimal notation without an exponent, with a point only where there are places behind it. -/
def plain (d : Decimal) : List Char :=
  if 0 ≤ d.exponent then wholeText (d.digits * Nat.pow 10 d.exponent.toNat)
  else
    let places := (-d.exponent).toNat
    wholeText (d.digits / Nat.pow 10 places) ++
      '.' :: padded places (wholeText (d.digits % Nat.pow 10 places))

/-- One digit, the others behind a point, and a signed exponent of at least two digits. -/
def scientific (d : Decimal) : List Char :=
  let digits := wholeText d.digits
  let exponent := d.exponent + (digits.length : Int) - 1
  let mark := if exponent < 0 then '-' else '+'
  let body := match digits with
    | [only] => [only]
    | first :: others => first :: '.' :: others
    | [] => []
  body ++ 'e' :: mark :: padded 2 (wholeText exponent.natAbs)

end Decimal

namespace Binary64

def withSign (negative : Bool) (digits : List Char) : List Char :=
  if negative then '-' :: digits else digits

/-- The texts of the numbers that are not finite. -/
def specialText (x : Float) : List Char :=
  if isNaN x then ['n', 'a', 'n'] else withSign (isNegative x) ['i', 'n', 'f']

/-- Whether a finite double is a whole number. -/
def isWhole (x : Float) : Bool := units x % unitsPerOne == 0

/-- A double in full, without an exponent: all digits of a whole number, the shortest digits of any
other. Zero has no sign. -/
def plain (x : Float) : List Char :=
  if !isFinite x then specialText x
  else if units x = 0 then ['0']
  else withSign (isNegative x)
    (if isWhole x then Decimal.wholeText (units x / unitsPerOne) else (Decimal.shortest x).plain)

/-- A double in the shortest digits, with an exponent from 10 to the power 16 on and below 0.0001, and
with a place behind the point otherwise. -/
def short (x : Float) : List Char :=
  if !isFinite x then specialText x
  else
    let d := Decimal.shortest x
    let lead := d.exponent + ((Decimal.wholeText d.digits).length : Int) - 1
    let body :=
      if units x = 0 then ['0', '.', '0']
      else if lead < -4 ∨ 16 ≤ lead then d.scientific
      else if 0 ≤ d.exponent then d.plain ++ ['.', '0']
      else d.plain
    withSign (isNegative x) body

/-- A double rounded to a fixed number of places, a half to the even neighbour. -/
def fixed (places : Nat) (x : Float) : List Char :=
  if !isFinite x then specialText x
  else
    let n := roundHalfEven (units x * Nat.pow 10 places) unitsPerOne
    withSign (isNegative x) (Decimal.plain ⟨n, -(places : Int)⟩)

end Binary64

end ChatService
