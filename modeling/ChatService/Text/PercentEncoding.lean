/-!
# Percent encoding

A text as a part of a web address: unreserved characters and the slash stand for
themselves, every other byte of the UTF-8 form is written by its number.
-/

namespace ChatService.Text

/-- ASCII letters, digits, and the marks that need no escape. -/
def isUnreserved (b : UInt8) : Bool :=
  (65 ≤ b && b ≤ 90) || (97 ≤ b && b ≤ 122) || (48 ≤ b && b ≤ 57) ||
    b == 95 || b == 46 || b == 45 || b == 126 || b == 47

def upperHexDigit (n : Nat) : Char := if n < 10 then Char.ofNat (48 + n) else Char.ofNat (55 + n)

/-- One byte as it stands in an address. -/
def percentByte (b : UInt8) : List Char :=
  if isUnreserved b then [Char.ofNat b.toNat]
  else ['%', upperHexDigit (b.toNat / 16), upperHexDigit (b.toNat % 16)]

/-- A text as it stands in an address. -/
def percentEncoded (s : String) : String := String.ofList (s.toUTF8.toList.flatMap percentByte)

end ChatService.Text
