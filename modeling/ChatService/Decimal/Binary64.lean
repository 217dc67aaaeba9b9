/-!
# Binary floating-point numbers as exact integers

A finite double is a whole number of units of 2 to the power -1074. `units` gives
the size of a double in those units and `nearest` goes back: from any non-negative
fraction to the double that lies nearest to it.
-/

namespace ChatService.Binary64

/-- The weight of the sign bit, 2 to the power 63. -/
def signWeight : Nat := 0x8000000000000000

/-- The number of fractions that share an exponent, 2 to the power 52. -/
def fractions : Nat := 0x10000000000000

/-- The fields of infinity; larger ones are no numbers. -/
def infinityFields : Nat := 2047 * fractions

/-- The 63 bits below the sign. -/
def fieldBits (x : Float) : Nat := x.toBits.toNat % signWeight

def isNegative (x : Float) : Bool := signWeight ≤ x.toBits.toNat

/-- Neither infinite nor the not-a-number. -/
def isFinite (x : Float) : Bool := fieldBits x < infinityFields

def isNaN (x : Float) : Bool := infinityFields < fieldBits x

/-- The binary logarithm of the distance to the next double away from zero, in units. -/
def spacing (x : Float) : Nat := fieldBits x / fractions - 1

/-- The whole number that is shifted left by the spacing. -/
def significand (x : Float) : Nat :=
  if fieldBits x < fractions then fieldBits x else fractions + fieldBits x % fractions

/-- The size of a finite double in units of 2 to the power -1074. -/
def units (x : Float) : Nat := significand x <<< spacing x

/-- How many units one is. -/
def unitsPerOne : Nat := 1 <<< 1074

/-- The quotient rounded to the nearest whole number, a half to the even one. -/
def roundHalfEven (num den : Nat) : Nat :=
  let q := num / den
  let r := num % den
  if den < 2 * r ∨ (2 * r = den ∧ q % 2 = 1) then q + 1 else q

/-- The double with a sign and 63 bits. -/
def ofFields (negative : Bool) (bits : Nat) : Float :=
  Float.ofBits ((if negative then signWeight + bits else bits).toUInt64)

def infinity (negative : Bool) : Float := ofFields negative infinityFields

def nan : Float := ofFields false (infinityFields + fractions / 2)

/-- The double nearest to `num / den` of the given sign; of two equally near ones the one with the even
significand. What lies half a step or more beyond the largest finite double becomes infinite. -/
def nearest (negative : Bool) (num den : Nat) : Float :=
  let scaled := num * unitsPerOne
  let room := (scaled / den).log2 - 52
  let bits := room * fractions + roundHalfEven scaled (den <<< room)
  if infinityFields ≤ bits then infinity negative else ofFields negative bits

/-- The sixteen hexadecimal digits of the bits with a sign. -/
def signedHexText (negative : Bool) (x : Float) : String :=
  let digits := Nat.toDigits 16 (fieldBits x + if negative then signWeight else 0)
  String.ofList (List.replicate (16 - digits.length) '0' ++ digits)

/-- The sixteen hexadecimal digits of the bits, sign first. -/
def hexText (x : Float) : String := signedHexText (isNegative x) x

end ChatService.Binary64
