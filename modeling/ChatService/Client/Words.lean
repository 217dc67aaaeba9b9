/-!
# Splitting a typed line into words

Words are separated by spaces, tabs and line ends. Single quotes keep everything between
them, double quotes everything but a backslash before a double quote or a backslash, and
outside quotes a backslash keeps the next character. Neighbouring pieces form one word,
and empty quotes are a word.
-/

namespace ChatService.Client

/-- The white space between words. -/
def isSeparator (c : Char) : Bool := c == ' ' || c == '\t' || c == '\r' || c == '\n'

/-- Where a line has been read up to. -/
inductive WordState
  | between
  /-- Inside a word, outside quotes. -/
  | bare
  | single
  | double
  /-- Behind a backslash outside quotes. -/
  | escape
  /-- Behind a backslash inside double quotes. -/
  | escapeInDouble
deriving DecidableEq, Repr

/-- Reads the rest of a line. The word so far and the words so far come last one first. -/
def splitFrom (state : WordState) (word : List Char) (done : List (List Char)) :
    List Char → Option (List (List Char))
  | [] =>
    match state with
    | .between => some done.reverse
    | .bare => some (word.reverse :: done).reverse
    | _ => none
  | c :: rest =>
    match state with
    | .between | .bare =>
      if isSeparator c then
        splitFrom .between [] (if state = .bare then word.reverse :: done else done) rest
      else if c = '\'' then splitFrom .single word done rest
      else if c = '"' then splitFrom .double word done rest
      else if c = '\\' then splitFrom .escape word done rest
      else splitFrom .bare (c :: word) done rest
    | .single =>
      if c = '\'' then splitFrom .bare word done rest else splitFrom .single (c :: word) done rest
    | .double =>
      if c = '"' then splitFrom .bare word done rest
      else if c = '\\' then splitFrom .escapeInDouble word done rest
      else splitFrom .double (c :: word) done rest
    | .escape => splitFrom .bare (c :: word) done rest
    | .escapeInDouble =>
      if c = '"' ∨ c = '\\' then splitFrom .double (c :: word) done rest
      else splitFrom .double (c :: '\\' :: word) done rest

/-- The words of a line; a line with an open quote or an escape without a character has none. -/
def splitWords? (line : List Char) : Option (List (List Char)) := splitFrom .between [] [] line

end ChatService.Client
