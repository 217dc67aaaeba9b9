import ChatService.Json.Token

/-!
# Why a text is not read

What is said of a text that holds no value: what was expected where reading stopped, and the
place by line, column and number of characters in front of it.
-/

namespace ChatService.Json

/-- What may stand where reading stops. -/
inductive Expected
  | value
  | key
  | colon
  | comma
  /-- Nothing more: the value is complete. -/
  | nothing
deriving DecidableEq, Repr

/-- Where reading stops. -/
structure Stop where
  expected : Expected
  /-- The text from there on. -/
  rest : List Char
deriving DecidableEq, Repr

/-- Why what begins with a quote is no text, and the text from the place that is meant. `whole` is the text
from the quote on. -/
def quoteFault (whole : List Char) : List Char → String × List Char
  | [] | ['\\'] => ("Unterminated string starting at", whole)
  | '\\' :: 'u' :: a :: b :: c :: d :: e :: rest =>
    if (unit? a b c d).isSome then quoteFault whole (e :: rest)
    else ("Invalid \\uXXXX escape", 'u' :: a :: b :: c :: d :: e :: rest)
  | '\\' :: 'u' :: rest => ("Invalid \\uXXXX escape", 'u' :: rest)
  | '\\' :: e :: rest =>
    if (shortEscape? e).isSome then quoteFault whole rest else ("Invalid \\escape", '\\' :: e :: rest)
  | c :: rest => if c.toNat < 32 then ("Invalid control character at", c :: rest) else quoteFault whole rest

namespace Stop

/-- What is wrong, and the text from the place that is meant. -/
def fault (stop : Stop) : String × List Char :=
  match stop.expected with
  | .colon => ("Expecting ':' delimiter", stop.rest)
  | .comma => ("Expecting ',' delimiter", stop.rest)
  | .nothing => ("Extra data", stop.rest)
  | .value => quoted "Expecting value"
  | .key => quoted "Expecting property name enclosed in double quotes"
where
  quoted (otherwise : String) : String × List Char :=
    match stop.rest with
    | '"' :: rest => quoteFault stop.rest rest
    | _ => (otherwise, stop.rest)

/-- A place in a text, by the number of characters in front of it. -/
def place (text : List Char) (position : Nat) : String :=
  let before := text.take position
  "line " ++ toString (before.count '\n' + 1) ++
    " column " ++ toString ((before.reverse.takeWhile (· ≠ '\n')).length + 1) ++
    " (char " ++ toString position ++ ")"

/-- What is said of a text that reading stopped in. A byte order mark is named before anything is read. -/
def message (text : List Char) (stop : Stop) : String :=
  if text.head? = some '\uFEFF' then "Unexpected UTF-8 BOM (decode using utf-8-sig): " ++ place text 0
  else stop.fault.1 ++ ": " ++ place text (text.length - stop.fault.2.length)

end Stop

/-- What is said of a whole number with too many digits. -/
def oversizedMessage (digits : Nat) : String :=
  "Exceeds the limit (" ++ toString Numeral.longestWhole ++ " digits) for integer string conversion: value has " ++
    toString digits ++ " digits; use sys.set_int_max_str_digits() to increase the limit"

end ChatService.Json
