import ChatService.Json.Basic
import ChatService.Decimal.Notation

/-!
# Writing structured values on one line

Items are separated by a comma and a space, keys by a colon and a space. On the wire
everything outside the printable ASCII characters is escaped, so a written value never
holds a line feed.
-/

namespace ChatService.Json

def hexDigit (n : Nat) : Char := Nat.digitChar (n % 16)

/-- The escape of one UTF-16 unit. -/
def unitEscape (n : Nat) : List Char :=
  ['\\', 'u', hexDigit (n / 4096), hexDigit (n / 256), hexDigit (n / 16), hexDigit n]

/-- The escape of any character by its UTF-16 units. -/
def numericEscape (c : Char) : List Char :=
  if c.toNat < 0x10000 then unitEscape c.toNat
  else unitEscape (0xD800 + (c.toNat - 0x10000) / 1024) ++ unitEscape (0xDC00 + (c.toNat - 0x10000) % 1024)

/-- Which characters outside ASCII are escaped. -/
inductive Charset
  | ascii
  | unicode
deriving DecidableEq, Repr

/-- How a character stands in a written text. -/
def escape (charset : Charset) (c : Char) : List Char :=
  if c = '"' then ['\\', '"']
  else if c = '\\' then ['\\', '\\']
  else if c = '\n' then ['\\', 'n']
  else if c = '\r' then ['\\', 'r']
  else if c = '\t' then ['\\', 't']
  else if c.toNat = 8 then ['\\', 'b']
  else if c.toNat = 12 then ['\\', 'f']
  else if c.toNat < 32 then numericEscape c
  else if charset = .ascii ∧ 127 ≤ c.toNat then numericEscape c
  else [c]

/-- How a code point stands in a written text. -/
def escapePoint (charset : Charset) : CodePoint → List Char
  | .char c => escape charset c
  | .half n => unitEscape (CodePoint.half n).value

def writeText (charset : Charset) (s : Text) : List Char :=
  '"' :: (s.flatMap (escapePoint charset) ++ ['"'])

def writeInt (n : Int) : List Char := Binary64.withSign (n < 0) (Nat.toDigits 10 n.natAbs)

/-- A double; the values that are not finite have names. -/
def writeFloat (x : Float) : List Char :=
  if Binary64.isNaN x then ['N', 'a', 'N']
  else if !Binary64.isFinite x then
    Binary64.withSign (Binary64.isNegative x) ['I', 'n', 'f', 'i', 'n', 'i', 't', 'y']
  else Binary64.short x

mutual

def write (charset : Charset) : Json → List Char
  | null => ['n', 'u', 'l', 'l']
  | bool true => ['t', 'r', 'u', 'e']
  | bool false => ['f', 'a', 'l', 's', 'e']
  | int n => writeInt n
  | float x => writeFloat x
  | str s => writeText charset s
  | arr [] => ['[', ']']
  | arr (item :: items) => '[' :: (write charset item ++ writeItems charset items)
  | obj [] => ['{', '}']
  | obj ((key, value) :: fields) =>
    '{' :: (writeText charset key ++ ':' :: ' ' :: write charset value ++ writeFields charset fields)

/-- The items behind the first one, and the close bracket. -/
def writeItems (charset : Charset) : List Json → List Char
  | [] => [']']
  | item :: items => ',' :: ' ' :: (write charset item ++ writeItems charset items)

/-- The fields behind the first one, and the close brace. -/
def writeFields (charset : Charset) : List (Text × Json) → List Char
  | [] => ['}']
  | (key, value) :: fields =>
    ',' :: ' ' :: (writeText charset key ++ ':' :: ' ' :: write charset value ++ writeFields charset fields)

end

/-- The line of a value on the wire, without its line feed. -/
def wireText (v : Json) : String := String.ofList (write .ascii v)

end ChatService.Json
