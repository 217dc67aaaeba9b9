import ChatService.Client.Words
import ChatService.Protocol.Request
import ChatService.Text.Blank
import ChatService.Text.Case

/-!
# Typed lines

What a line typed by the user asks for. A line that begins with a colon is a client
command; any other line is chat text, commands of the server included.
-/

namespace ChatService.Client

def requestOf? (command : String) (arguments : List Text) : Option Request :=
  match command, arguments with
  | "register", [username, email, password] => some (.register username email password)
  | "login", [username, password] => some (.login username password)
  | "logout", _ => some .logout
  | "pm", recipient :: first :: others => some (.privateMessage recipient (Text.join " " (first :: others)))
  | "history", [] => some .getHistory
  | "history", [username] => some (.getPrivateHistory username)
  | "add", [username] => some (.addContact username)
  | "contacts", _ => some .getContacts
  | _, _ => none

/-- The request that a line asks for. There is none for a blank line, for words that cannot be split, and
for a command that is unknown or has the wrong number of arguments. -/
def parseInput (line : String) : Option Request :=
  match Text.strip line.toList with
  | [] => none
  | ':' :: rest =>
    match splitWords? rest with
    | some (command :: arguments) =>
      requestOf? (String.ofList (Text.lower command)) (arguments.map Text.ofChars)
    | _ => none
  | text => some (.chat (Text.ofChars text))

end ChatService.Client
