import ChatService.Json.Display
import ChatService.Protocol.Envelope

/-!
# Requests

What a client can ask for, the object that says so on the wire, and how an object is
understood. A field that is missing or null reads as the empty text, and a field of
another kind as the text that shows it.
-/

namespace ChatService

inductive Request
  | register (username email password : Text)
  | login (username password : Text)
  | logout
  | heartbeat
  | chat (text : Text)
  | privateMessage (recipient text : Text)
  | getHistory
  | getPrivateHistory (username : Text)
  | addContact (username : Text)
  | getContacts
deriving DecidableEq, Repr

namespace Request

/-- The object of a request. A heartbeat carries the client's time. -/
def toJson (now : Instant) : Request → Json
  | register username email password => Envelope.register (.str username) (.str email) (.str password)
  | login username password => Envelope.login (.str username) (.str password)
  | logout => Envelope.logout
  | heartbeat => Envelope.heartbeat now
  | chat text => Envelope.chat (.str text)
  | privateMessage recipient text => Envelope.privateRequest (.str recipient) (.str text)
  | getHistory => Envelope.getHistory
  | getPrivateHistory username => Envelope.getPrivateHistory (.str username)
  | addContact username => Envelope.addContact (.str username)
  | getContacts => Envelope.getContacts

def textField (fields : List (Text × Json)) (key : Text) : Text :=
  match Json.lookup key fields with
  | none | some .null => ""
  | some v => v.shown

/-- The request of a type with the fields of an object; other types are none. -/
def ofFields? (type : Text) (fields : List (Text × Json)) : Option Request :=
  let field := textField fields
  if type = "register" then some (.register (field "username") (field "email") (field "password"))
  else if type = "login" then some (.login (field "username") (field "password"))
  else if type = "logout" then some .logout
  else if type = "chat" then some (.chat (field "text"))
  else if type = "private_message" then some (.privateMessage (field "to") (field "text"))
  else if type = "get_private_history" then some (.getPrivateHistory (field "with"))
  else if type = "add_contact" then some (.addContact (field "username"))
  else if type = "get_contacts" then some .getContacts
  else if type = "get_history" then some .getHistory
  else if type = "heartbeat" then some .heartbeat
  else none

end Request

end ChatService
