import ChatService.Protocol.Envelope
import ChatService.Store.Record
import ChatService.Failure

/-!
# Replies

What the server sends, with the records it is made from, and the object on the wire.
The stored password of an account is never part of it.
-/

namespace ChatService

/-- A private message with the names of both sides. -/
structure Delivery where
  id : Id
  sender : Text
  recipient : Text
  text : Text
  timestamp : Instant
  isRead : Bool
deriving DecidableEq, Repr

inductive Reply
  | error (message : Text) (code : String)
  | registerSuccess (user : User)
  | loginSuccess (user : User)
  | logoutSuccess
  | chat (message : Message)
  | system (text : Text) (now : Instant)
  | history (messages : List Message)
  | privateMessage (d : Delivery)
  | privateHistory (username : Text) (messages : List Delivery)
  | contactAdded (username : Text)
  | contacts (entries : List ContactStatus)
  | onlineUsers (usernames : List Text)
  | heartbeatAck (now : Instant)
deriving DecidableEq, Repr

/-- What others may see of an account. -/
def User.publicFields (u : User) : List (Text × Json) :=
  [("id", .str u.id.text), ("username", .str u.username), ("email", .str u.email),
   ("is_online", .bool u.isOnline), ("created_at", .str u.createdAt.text),
   ("last_seen", .str u.lastSeen.text)]

def Message.fields (m : Message) : List (Text × Json) :=
  [("username", .str m.username), ("text", .str m.text), ("timestamp", .str m.timestamp.text)]

def ContactStatus.fields (c : ContactStatus) : List (Text × Json) :=
  [("username", .str c.username), ("is_online", .bool c.isOnline), ("last_seen", .str c.lastSeen.text)]

def Delivery.toJson (d : Delivery) : Json :=
  Envelope.privateDelivery (.str d.id.text) (.str d.sender) (.str d.recipient) (.str d.text)
    (.str d.timestamp.text) (.bool d.isRead)

namespace Reply

def toJson : Reply → Json
  | error message code => Envelope.error (.str message) (.str code)
  | registerSuccess user => Envelope.registerSuccess (.obj user.publicFields)
  | loginSuccess user => Envelope.loginSuccess (.obj user.publicFields)
  | logoutSuccess => Envelope.logoutSuccess
  | chat message => Envelope.broadcast message.fields
  | system text now => Envelope.system (.str text) now
  | history messages => Envelope.history (messages.map fun m => .obj m.fields)
  | privateMessage d => d.toJson
  | privateHistory username messages =>
    Envelope.privateHistory (.str username) (messages.map Delivery.toJson)
  | contactAdded username => Envelope.contactAdded (.str username)
  | contacts entries => Envelope.contacts (.arr (entries.map fun c => .obj c.fields))
  | onlineUsers usernames => Envelope.onlineUsers (.arr (usernames.map .str))
  | heartbeatAck now => Envelope.heartbeatAck now

/-- The reply to a request that failed. -/
def ofFailure (f : Failure) : Reply := .error f.message f.kind.code

def typeName : Reply → String
  | error _ _ => "error"
  | registerSuccess _ => "register_success"
  | loginSuccess _ => "login_success"
  | logoutSuccess => "logout_success"
  | chat _ => "chat"
  | system _ _ => "system"
  | history _ => "history"
  | privateMessage _ => "private_message"
  | privateHistory _ _ => "private_history"
  | contactAdded _ => "contact_added"
  | contacts _ => "contacts"
  | onlineUsers _ => "online_users"
  | heartbeatAck _ => "heartbeat_ack"

end Reply

end ChatService
