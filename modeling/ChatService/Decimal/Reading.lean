import ChatService.Decimal.Shortest
import ChatService.Text.Blank
import ChatService.Text.Digit

/-!
# Reading numbers

The number syntax of settings and of foreign services: digits of any script, single
underscores between digits, white space around, and for doubles a point, an exponent,
the infinities and the not-a-number.
-/

namespace ChatService

namespace Decimal

/-- The double nearest to a decimal of the given sign. -/
def toFloat (negative : Bool) (d : Decimal) : Float :=
  let lead := d.exponent + ((Nat.toDigits 10 d.digits).length : Int)
  if d.digits = 0 then Binary64.ofFields negative 0
  else if 400 < lead then Binary64.infinity negative
  else if lead < -400 then Binary64.ofFields negative 0
  else
    let (up, down) := powerOfTen d.exponent
    Binary64.nearest negative (d.digits * up) down

end Decimal

namespace Numeral

/-- White space that may surround a number. The four information separators may not. -/
def isPadding (c : Char) : Bool := Text.isBlank c && !(28 ≤ c.toNat && c.toNat ≤ 31)

def trim (s : List Char) : List Char :=
  ((s.dropWhile isPadding).reverse.dropWhile isPadding).reverse

/-- The text with the underscores taken out, if each of them stands between two digits. The first
argument tells whether a digit stands before. -/
def dropUnderscores? (afterDigit : Bool) : List Char → Option (List Char)
  | [] => some []
  | '_' :: rest =>
    match rest with
    | c :: _ => if afterDigit && Text.isDigit c then dropUnderscores? false rest else none
    | [] => none
  | c :: rest => (dropUnderscores? (Text.isDigit c) rest).map (c :: ·)

/-- A sign and what stands behind it. -/
def takeSign : List Char → Bool × List Char
  | '-' :: rest => (true, rest)
  | '+' :: rest => (false, rest)
  | s => (false, s)

/-- A whole number in digits. -/
def digits? (s : List Char) : Option Nat :=
  if s.isEmpty || !s.all Text.isDigit then none else some (Text.digitsValue s)

/-- A whole number with an optional sign. -/
def signed? (s : List Char) : Option Int :=
  let (negative, rest) := takeSign s
  (digits? rest).map fun n => if negative then -(n : Int) else n

/-- The longest number of digits that a whole number may be written with. -/
def longestWhole : Nat := 4300

/-- A whole number as it is written in settings. -/
def whole? (s : List Char) : Option Int := do
  let t ← dropUnderscores? false (trim s)
  if longestWhole < (t.filter Text.isDigit).length then none else signed? t

/-- The decimal that digits around an optional point and an optional exponent write. -/
def decimal? (s : List Char) : Option Decimal :=
  let isExponentMark c := c == 'e' || c == 'E'
  let mantissa := s.takeWhile fun c => !isExponentMark c
  let exponent? := match s.dropWhile fun c => !isExponentMark c with
    | [] => some 0
    | _ :: rest => signed? rest
  let whole := mantissa.takeWhile Text.isDigit
  let places? := match mantissa.dropWhile Text.isDigit with
    | [] => some []
    | c :: places => if c = '.' ∧ places.all Text.isDigit then some places else none
  match exponent?, places? with
  | some exponent, some places =>
    if whole.isEmpty && places.isEmpty then none
    else some ⟨Text.digitsValue (whole ++ places), exponent - places.length⟩
  | _, _ => none

def infinityNames : List (List Char) := [['i', 'n', 'f'], ['i', 'n', 'f', 'i', 'n', 'i', 't', 'y']]

/-- A sign and a double as foreign services write it. -/
def signedDouble? (s : List Char) : Option (Bool × Float) := do
  let t ← dropUnderscores? false (trim s)
  let (negative, rest) := takeSign t
  let lower := rest.map Char.toLower
  if infinityNames.contains lower then some (negative, Binary64.infinity negative)
  else if lower = ['n', 'a', 'n'] then some (negative, Binary64.nan)
  else (decimal? rest).map fun d => (negative, d.toFloat negative)

end Numeral

end ChatService
