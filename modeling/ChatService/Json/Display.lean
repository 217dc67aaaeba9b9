import ChatService.Json.Basic
import ChatService.Decimal.Notation
import ChatService.Text.Printable

/-!
# Showing a value inside a sentence

A text is shown as it is. Other values are spelled out; texts inside lists and objects
stand between single quotes, or between double quotes when they hold a single quote and
no double quote, and what is not printable in them is escaped.
-/

namespace ChatService.Json

/-- Lower-case hexadecimal digits, filled up with zeros. -/
def hexDigits (width n : Nat) : List Char :=
  let digits := Nat.toDigits 16 n
  List.replicate (width - digits.length) '0' ++ digits

/-- How a character stands between the given quotes. -/
def quotedChar (quote c : Char) : List Char :=
  if c = quote ∨ c = '\\' then ['\\', c]
  else if c = '\n' then ['\\', 'n']
  else if c = '\r' then ['\\', 'r']
  else if c = '\t' then ['\\', 't']
  else if Text.isPrintable c then [c]
  else if c.toNat < 0x100 then '\\' :: 'x' :: hexDigits 2 c.toNat
  else if c.toNat < 0x10000 then '\\' :: 'u' :: hexDigits 4 c.toNat
  else '\\' :: 'U' :: hexDigits 8 c.toNat

/-- How a code point stands between the given quotes. -/
def quotedPoint (quote : Char) : CodePoint → List Char
  | .char c => quotedChar quote c
  | .half n => '\\' :: 'u' :: hexDigits 4 (CodePoint.half n).value

def quoted (s : Text) : List Char :=
  let quote := if s.contains (.char '\'') && !s.contains (.char '"') then '"' else '\''
  quote :: (s.flatMap (quotedPoint quote) ++ [quote])

mutual

/-- A value inside a list or an object. -/
def inner : Json → List Char
  | null => ['N', 'o', 'n', 'e']
  | bool true => ['T', 'r', 'u', 'e']
  | bool false => ['F', 'a', 'l', 's', 'e']
  | int n => Binary64.withSign (n < 0) (Nat.toDigits 10 n.natAbs)
  | float x => Binary64.short x
  | str s => quoted s
  | arr [] => ['[', ']']
  | arr (item :: items) => '[' :: (inner item ++ innerItems items)
  | obj [] => ['\x7b', '\x7d']
  | obj ((key, value) :: fields) =>
    '\x7b' :: (quoted key ++ ':' :: ' ' :: inner value ++ innerFields fields)

/-- The items behind the first one, and the close bracket. -/
def innerItems : List Json → List Char
  | [] => [']']
  | item :: items => ',' :: ' ' :: (inner item ++ innerItems items)

/-- The fields behind the first one, and the close brace. -/
def innerFields : List (Text × Json) → List Char
  | [] => ['\x7d']
  | (key, value) :: fields =>
    ',' :: ' ' :: (quoted key ++ ':' :: ' ' :: inner value ++ innerFields fields)

end

/-- A value inside a sentence. -/
def shown : Json → Text
  | str s => s
  | v => Text.ofChars (inner v)

end ChatService.Json
