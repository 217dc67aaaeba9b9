import ChatService.Log
import ChatService.Table
import ChatService.Text.Blank
import ChatService.Text.Case

/-!
# Finding the handler of a command

A message that begins with the marker is a command. Its first word, in lower case, is
looked up among the registered names; the other words are the arguments. Running a
handler always ends in a reply, also when it fails.
-/

namespace ChatService

/-- Handlers by the word that calls them. -/
structure Dispatcher (α : Type) where
  marker : Text
  handlers : Table Text α

/-- What a command text calls. -/
inductive Selection (α : Type)
  | nothing
  | unknown (token : Text)
  | handler (token : Text) (handler : α) (arguments : List Text)

namespace Dispatcher

variable {α : Type}

def empty (marker : Text) : Dispatcher α := ⟨marker, .empty⟩

/-- The marker that commands begin with unless a dispatcher is told otherwise. -/
def defaultMarker : Text := "/"

/-- The dispatcher with a handler under some names; a name that was taken changes hands. -/
def register (d : Dispatcher α) (handler : α) (names : List Text) : Dispatcher α :=
  { d with handlers := names.foldl (fun t name => t.insert (d.marker ++ Text.lowered name) handler) d.handlers }

def isCommand (d : Dispatcher α) (text : Text) : Bool :=
  text ≠ [] && d.marker.isPrefixOf text

/-- What a command text calls. -/
def select (d : Dispatcher α) (text : Text) : Selection α :=
  match Text.words text with
  | [] => .nothing
  | first :: arguments =>
    let token := Text.lowered first
    match d.handlers.find? token with
    | none => .unknown token
    | some handler => .handler token handler arguments

/-- The reply to a word that calls nothing. -/
def unknownReply : Text := "❌ Unknown command. Type /help"

/-- Who is named in the log when nobody is logged in. -/
def anonymous : Text := "anonymous"

/-- The reply to a command text, the state after it, and what was done on the way. The handler gets its
arguments and the state; it gives a reply or the text of a failure, the new state and its effects. -/
def dispatch {σ ε : Type} (d : Dispatcher α) (log : LogLine → ε)
    (run : α → List Text → σ → Except Text Text × σ × List ε)
    (who text : Text) (s : σ) : Text × σ × List ε :=
  match d.select text with
  | .nothing => (unknownReply, s, [])
  | .unknown token => (unknownReply, s, [log (.debug ("Unknown command " ++ token ++ " from " ++ who))])
  | .handler token handler arguments =>
    let opening := log (.info ("Command " ++ token ++ " from " ++ who))
    match run handler arguments s with
    | (.ok reply, s', effects) => (reply, s', opening :: effects)
    | (.error message, s', effects) =>
      ("❌ Error: " ++ message, s',
        opening :: effects ++ [log (.error ("Error in command " ++ token ++ ": " ++ message))])

/-- The registered words, sorted. -/
def tokens (d : Dispatcher α) : List Text := d.handlers.keys.mergeSort fun a b => decide (a ≤ b)

end Dispatcher

end ChatService
