import ChatService.Instant
import ChatService.Json.Basic

/-!
# Envelopes

The shape of every message on the wire: an object whose `type` says what it is, with the
other fields in a fixed order. The fields may hold any value.
-/

namespace ChatService.Envelope

/-- An object with its type first. -/
def typed (type : String) (fields : List (Text × Json)) : Json := .obj (("type", .str type) :: fields)

/-! ## From client to server -/

def register (username email password : Json) : Json :=
  typed "register" [("username", username), ("email", email), ("password", password)]

def login (username password : Json) : Json :=
  typed "login" [("username", username), ("password", password)]

def logout : Json := typed "logout" []

def heartbeat (now : Instant) : Json := typed "heartbeat" [("timestamp", .str now.localText)]

def chat (text : Json) : Json := typed "chat" [("text", text)]

def privateRequest (recipient text : Json) : Json :=
  typed "private_message" [("to", recipient), ("text", text)]

def getHistory : Json := typed "get_history" []

def getPrivateHistory (username : Json) : Json := typed "get_private_history" [("with", username)]

def addContact (username : Json) : Json := typed "add_contact" [("username", username)]

def getContacts : Json := typed "get_contacts" []

/-! ## From server to client -/

/-- The code of an error that is no failure of the chat itself. -/
def plainErrorCode : String := "error"

def error (message code : Json) : Json := typed "error" [("code", code), ("message", message)]

def registerSuccess (user : Json) : Json := typed "register_success" [("user", user)]

def loginSuccess (user : Json) : Json := typed "login_success" [("user", user)]

def logoutSuccess : Json := typed "logout_success" []

/-- A stored message as it is broadcast: the type is added to its own fields. -/
def broadcast (message : List (Text × Json)) : Json := .obj (Json.put "type" (.str "chat") message)

/-- The name that command replies come from. -/
def systemAuthor : String := "System"

def system (text : Json) (now : Instant) : Json :=
  typed "system" [("username", .str systemAuthor), ("text", text), ("timestamp", .str now.localText)]

def history (messages : List Json) : Json :=
  typed "history" [("messages", .arr messages), ("count", .int messages.length)]

def privateDelivery (id sender recipient text timestamp isRead : Json) : Json :=
  typed "private_message"
    [("id", id), ("from", sender), ("to", recipient), ("text", text), ("timestamp", timestamp),
     ("is_read", isRead)]

def privateHistory (username : Json) (messages : List Json) : Json :=
  typed "private_history"
    [("with", username), ("messages", .arr messages), ("count", .int messages.length)]

def contactAdded (username : Json) : Json := typed "contact_added" [("username", username)]

def contacts (entries : Json) : Json := typed "contacts" [("contacts", entries)]

def onlineUsers (usernames : Json) : Json := typed "online_users" [("users", usernames)]

def heartbeatAck (now : Instant) : Json := typed "heartbeat_ack" [("timestamp", .str now.localText)]

end ChatService.Envelope
