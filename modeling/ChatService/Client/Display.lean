import ChatService.Json.Display
import ChatService.Log
import ChatService.Text.Encoding

/-!
# Showing what the server sends

The lines that the client shows for a message: most are printed, some go to its log. The
client trusts the shape of what it gets: a value of another kind where fields, a text or a
list is expected breaks off the showing, and the lines before it stay. A line without bytes
breaks it off too when it is printed; the log just drops it.
-/

namespace ChatService.Client

inductive DisplayFault
  /-- A value that is no object was asked for a field. -/
  | noFields
  /-- A value was cut, counted or listed that cannot be. -/
  | wrongKind
  /-- A line to print has no bytes. -/
  | unencodable (fault : EncodeFault)
deriving DecidableEq, Repr

/-- What comes out for a line of the log: nothing if it has no bytes. -/
def logged (line : LogLine) : String :=
  match line.render.encode with
  | .ok s => s ++ "\n"
  | .error _ => ""

/-- A line to show. -/
inductive Shown
  | print (line : Text)
  | log (line : LogLine)
deriving DecidableEq, Repr

namespace Shown

/-- What comes out for a line, or why nothing does. -/
def come : Shown → Except DisplayFault String
  | print line => (line.encode.map (· ++ "\n")).mapError .unencodable
  | log line => .ok (logged line)

end Shown

/-- Lines to show, up to the first one that has a fault. -/
abbrev Printout := List (Except DisplayFault Shown)

/-- What comes out before the first fault. -/
def printed : Printout → String
  | [] => ""
  | line :: rest =>
    match line.bind Shown.come with
    | .ok s => s ++ printed rest
    | .error _ => ""

def fault? : Printout → Option DisplayFault
  | [] => none
  | line :: rest =>
    match line.bind Shown.come with
    | .ok _ => fault? rest
    | .error fault => some fault

/-! ## Looking into values -/

/-- A field of a value, with a default for a missing one. -/
def fieldOr (key : Text) (default : Json) : Json → Except DisplayFault Json
  | .obj fields => .ok ((Json.lookup key fields).getD default)
  | _ => .error .noFields

/-- A field inside a sentence. -/
def shownField (v : Json) (key : Text) (default : Json) : Except DisplayFault Text :=
  (fieldOr key default v).map Json.shown

/-- The part of a text or list from one place to another. -/
def cut (start stop : Nat) : Json → Except DisplayFault Json
  | .str s => .ok (.str ((s.take stop).drop start))
  | .arr items => .ok (.arr ((items.take stop).drop start))
  | _ => .error .wrongKind

/-- A part of a field inside a sentence; a missing field counts as the empty text. -/
def cutField (v : Json) (key : Text) (start stop : Nat) : Except DisplayFault Text := do
  let value ← fieldOr key (.str "") v
  let part ← cut start stop value
  return part.shown

/-- How many members a value has. -/
def size : Json → Except DisplayFault Nat
  | .str s => .ok s.length
  | .arr items => .ok items.length
  | .obj fields => .ok fields.length
  | _ => .error .wrongKind

/-- The members of a value: the characters of a text, the items of a list, the keys of an object. -/
def members : Json → Except DisplayFault (List Json)
  | .str s => .ok (s.map fun c => .str [c])
  | .arr items => .ok items
  | .obj fields => .ok (fields.map fun f => .str f.1)
  | _ => .error .wrongKind

/-- Whether a value counts as true: all but null, false, zero and what is empty. -/
def isTrue : Json → Bool
  | .null => false
  | .bool b => b
  | .int n => n ≠ 0
  | .float x => !(x == 0)
  | .str s => !s.isEmpty
  | .arr items => !items.isEmpty
  | .obj fields => !fields.isEmpty

def memberTexts (v : Json) : Except DisplayFault (List Text) := do
  let items ← members v
  items.mapM fun item => match item with
    | .str s => .ok s
    | _ => .error .wrongKind

/-! ## Messages -/

/-- A line to print for every member of a value. -/
def rows (row : Json → Except DisplayFault Text) (v : Json) : Printout :=
  match members v with
  | .ok items => items.map fun item => (row item).map .print
  | .error fault => [.error fault]

def ruler : Text := List.replicate 50 (.char '-')

def chatLine (v : Json) : Except DisplayFault Text := do
  let time ← cutField v "timestamp" 11 19
  let username ← shownField v "username" .null
  let text ← shownField v "text" .null
  return "[" ++ time ++ "] " ++ username ++ ": " ++ text

def privateLine (v : Json) : Except DisplayFault Text := do
  let sender ← shownField v "from" .null
  let recipient ← shownField v "to" .null
  let text ← shownField v "text" .null
  return "📨 [PRIVATE] " ++ sender ++ " → " ++ recipient ++ ": " ++ text

/-- A message of a history, with replacements for what it may lack. -/
def historyRow (author : Text) (nobody silence : Json) (v : Json) : Except DisplayFault Text := do
  let time ← cutField v "timestamp" 0 19
  let username ← shownField v author nobody
  let text ← shownField v "text" silence
  return "[" ++ time ++ "] " ++ username ++ ": " ++ text

def historyLines (v : Json) : Printout :=
  match fieldOr "messages" (.arr []) v with
  | .error fault => [.error fault]
  | .ok messages =>
    if isTrue messages then
      (size messages).map (fun n => .print ("\n[HISTORY] Loading " ++ toString n ++ " previous message(s):")) ::
        .ok (.print ruler) :: rows (historyRow "username" (.str "unknown") (.str "")) messages ++ [.ok (.print ruler)]
    else [.ok (.print "[HISTORY] No previous messages")]

def privateHistoryLines (v : Json) : Printout :=
  let header : Except DisplayFault Shown := do
    let other ← shownField v "with" .null
    let count ← shownField v "count" (.int 0)
    return .print ("\n[PRIVATE HISTORY with " ++ other ++ "] " ++ count ++ " message(s)")
  match fieldOr "messages" (.arr []) v with
  | .error fault => [.error fault]
  | .ok messages => header :: rows (historyRow "from" .null .null) messages

def contactRow (v : Json) : Except DisplayFault Text := do
  let online ← fieldOr "is_online" .null v
  let status : Text ← if isTrue online then .ok "online" else do
    let since ← cutField v "last_seen" 0 16
    .ok ("last seen " ++ since)
  let username ← shownField v "username" .null
  return "  - " ++ username ++ " (" ++ status ++ ")"

def contactsLines (v : Json) : Printout :=
  match fieldOr "contacts" (.arr []) v with
  | .error fault => [.error fault]
  | .ok contacts =>
    (size contacts).map (fun n => .print ("📇 Contacts (" ++ toString n ++ "):")) :: rows contactRow contacts

/-- The name in the account that a message carries. -/
def accountName (v : Json) : Except DisplayFault Json := do
  let user ← fieldOr "user" (.obj []) v
  fieldOr "username" .null user

def onlineLine (v : Json) : Except DisplayFault LogLine := do
  let users ← fieldOr "users" (.arr []) v
  let count ← size users
  let names ← memberTexts users
  let listed := Text.join ", " names
  return .info ("[INFO] Online (" ++ toString count ++ "): " ++ (if listed = [] then ("-" : Text) else listed))

/-- The type of a message, if it has one of those that can be spelled. -/
def typeOf? (fields : List (Text × Json)) : Option String :=
  match Json.lookup "type" fields with
  | some (.str type) => type.string?
  | _ => none

/-- What is shown for a message from the server. -/
def display (v : Json) : Printout :=
  match v with
  | .obj fields =>
    match typeOf? fields with
    | some "login_success" =>
      [(accountName v).map fun name => .log (.info ("[SUCCESS] Logged in as '" ++ name.shown ++ "'"))]
    | some "online_users" => [(onlineLine v).map .log]
    | some "error" =>
      [(shownField v "message" (.str "Unknown error")).map fun message =>
        .log (.error ("[ERROR] Server error: " ++ message))]
    | some "chat" => [(chatLine v).map .print]
    | some "system" => [(shownField v "text" .null).map fun text => .print ("🤖 " ++ text)]
    | some "private_message" => [(privateLine v).map .print]
    | some "history" => historyLines v
    | some "private_history" => privateHistoryLines v
    | some "contacts" => contactsLines v
    | some "contact_added" =>
      [(shownField v "username" .null).map fun name => .print ("✓ " ++ name ++ " is in your contacts")]
    | some "register_success" =>
      [(accountName v).map fun name => .print ("✓ Registered '" ++ name.shown ++ "', now :login")]
    | some "logout_success" => [.ok (.print "✓ Logged out")]
    | _ => []
  | _ => [.error .noFields]

/-- The name that the client is logged in under after a message. -/
def nameAfter (current : Json) (v : Json) : Json :=
  match v with
  | .obj fields =>
    match typeOf? fields with
    | some "login_success" => (accountName v).toOption.getD current
    | some "logout_success" => .null
    | _ => current
  | _ => current

end ChatService.Client
