import ChatService.Decimal.Reading

/-!
# Command lines

A command line is a list of options. An option is meant by its name, or by the beginning of
a name that no other option shares, and takes its value from behind an equals sign or from
the next argument. Whatever is no option and no value of one is refused, but only after the
options before it had their say: a request for help among them comes first.
-/

namespace ChatService

/-- What an option is for. -/
inductive OptionKind
  | help
  /-- Is there or not. -/
  | switch
  | text
  | whole
deriving DecidableEq, Repr

/-- What an option says when it is there. -/
inductive OptionValue
  | on
  | text (value : String)
  | whole (value : Int)
deriving DecidableEq, Repr

/-- An option under its name, which begins with two hyphens. -/
structure OptionRule where
  name : List Char
  kind : OptionKind
deriving DecidableEq, Repr

/-- Why a program ends before it starts. -/
inductive EarlyExit
  | usage
  /-- The command line has no meaning. -/
  | refused
deriving DecidableEq, Repr

namespace EarlyExit

def code : EarlyExit → Nat
  | usage => 0
  | refused => 2

end EarlyExit

namespace CommandLine

/-- What an argument is. -/
inductive Argument
  /-- No option: a value, or nothing that is wanted. -/
  | plain (text : List Char)
  /-- An option, with the value behind its equals sign. -/
  | option (rule : OptionRule) (given : Option (List Char))
  | unknown
  /-- The beginning of several names. -/
  | ambiguous
deriving DecidableEq, Repr

/-- The option that every program has. Its short form is `-h`. -/
def help : OptionRule := ⟨"--help".toList, .help⟩

/-- The part of an argument before its first equals sign, and the part behind. -/
def splitValue (s : List Char) : List Char × Option (List Char) :=
  let name := s.takeWhile (· ≠ '=')
  match s.dropWhile (· ≠ '=') with
  | [] => (name, none)
  | _ :: value => (name, some value)

/-- Whether the part behind a hyphen is a number: digits, or a point with digits behind it. A line feed
at the end does not count. -/
def looksNumeric (s : List Char) : Bool :=
  let s := if s.getLast? = some '\n' then s.dropLast else s
  match s.dropWhile Text.isDigit with
  | [] => !s.isEmpty
  | '.' :: places => !places.isEmpty && places.all Text.isDigit
  | _ => false

/-- The option that a beginning of its name means. -/
def named (rules : List OptionRule) (s : List Char) : Argument :=
  let (name, given) := splitValue s
  match rules.find? (·.name = name) with
  | some rule => .option rule given
  | none =>
    match rules.filter (name.isPrefixOf ·.name) with
    | [rule] => .option rule given
    | [] => if ' ' ∈ s then .plain s else .unknown
    | _ => .ambiguous

/-- The short form of the help option may be repeated, and letters behind it are not looked at; a value
or a hyphen behind it makes no sense. The argument is what stands behind the hyphen. -/
def shortHelp (letters : List Char) : Argument :=
  match letters.dropWhile (· = 'h') with
  | '=' :: rest => .option help (some rest)
  | '-' :: rest => .option help (some rest)
  | _ => .option help none

/-- What an argument is. A negative number, a single hyphen and what holds a space are values. -/
def classify (rules : List OptionRule) (s : List Char) : Argument :=
  match s with
  | '-' :: '-' :: _ => named rules s
  | ['-'] => .plain s
  | '-' :: 'h' :: rest => shortHelp ('h' :: rest)
  | '-' :: rest => if looksNumeric rest || ' ' ∈ rest then .plain s else .unknown
  | _ => .plain s

/-- The value of an option of a kind that takes one. -/
def valueOf? (kind : OptionKind) (s : List Char) : Option OptionValue :=
  match kind with
  | .text => some (.text (String.ofList s))
  | .whole => (Numeral.whole? s).map .whole
  | .help | .switch => none

/-- What the options say, in order. The first argument tells whether something unwanted was met. -/
def gather (unwanted : Bool) : List Argument → Except EarlyExit (List (OptionRule × OptionValue))
  | [] => if unwanted then .error .refused else .ok []
  | .plain _ :: rest => gather true rest
  | .unknown :: rest => gather true rest
  | .ambiguous :: _ => .error .refused
  | .option rule (some s) :: rest =>
    match valueOf? rule.kind s with
    | some value => (gather unwanted rest).map ((rule, value) :: ·)
    | none => .error .refused
  | .option rule none :: rest =>
    match rule.kind, rest with
    | .help, _ => .error .usage
    | .switch, rest => (gather unwanted rest).map ((rule, .on) :: ·)
    | kind, .plain s :: rest =>
      match valueOf? kind s with
      | some value => (gather unwanted rest).map ((rule, value) :: ·)
      | none => .error .refused
    | _, _ => .error .refused

/-- What the arguments of a program with some options of its own say. Two hyphens end the options. -/
def read (own : List OptionRule) (arguments : List String) :
    Except EarlyExit (List (OptionRule × OptionValue)) :=
  let before := (arguments.takeWhile (· ≠ "--")).map fun s => classify (help :: own) s.toList
  if before.contains .ambiguous then .error .refused
  else gather (before.length < arguments.length) before

def value? (said : List (OptionRule × OptionValue)) (rule : OptionRule) : Option OptionValue :=
  (said.reverse.find? (·.1 = rule)).map (·.2)

def textOr (said : List (OptionRule × OptionValue)) (rule : OptionRule) (default : String) : String :=
  match value? said rule with
  | some (.text s) => s
  | _ => default

def wholeOr (said : List (OptionRule × OptionValue)) (rule : OptionRule) (default : Int) : Int :=
  match value? said rule with
  | some (.whole n) => n
  | _ => default

end CommandLine

end ChatService
