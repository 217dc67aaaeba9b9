import ChatService.Command.BuiltIn
import ChatService.Hub.Effect
import ChatService.Protocol.Request
import ChatService.Store.Basic

/-!
# The hub

What happens when a connection opens, closes or asks for something. Every operation
takes the connection it comes from and the time, and gives its value, the new state of
the hub, and its effects in order. A refusal becomes one error reply to the caller and
changes nothing.
-/

namespace ChatService

/-- The chat log: a file, and the local clock that dates its records. -/
structure ChatLog where
  path : String
  /-- Why the file cannot be written, if it cannot. -/
  blocked : Option String
  /-- The local time at a reading of the clock, by the number of readings before it and the time of the step. -/
  clock : Nat → Instant → Instant
  /-- How many times the clock was read. -/
  readings : Nat
  /-- Whether the file is there. -/
  created : Bool
  /-- The records in the file. -/
  records : List String

structure Hub where
  store : Store
  commands : BuiltIn.State
  chatLog : ChatLog

structure Outcome (α : Type) where
  value : α
  hub : Hub
  effects : List Effect

namespace ChatLog

def empty (path : String) (blocked : Option String) (clock : Nat → Instant → Instant) : ChatLog :=
  ⟨path, blocked, clock, 0, false, []⟩

/-- The log of a server that was told nothing, where local time is UTC. -/
def default : ChatLog := empty "logs/chat_history.log" none fun _ now => now

/-- What is reported when a record cannot be written. -/
def failure (l : ChatLog) (reason : String) : Effect :=
  .log (.error ("Failed to write to log file " ++ l.path ++ ": " ++ reason))

/-- A record at the end, dated by the next reading of the clock. What keeps it from being written is reported:
that the file cannot be written, or that the record has no bytes. -/
def append (l : ChatLog) (now : Instant) (record : Instant → Text) : ChatLog × List Effect :=
  let read := { l with readings := l.readings + 1 }
  match l.blocked with
  | some reason => (read, [l.failure reason])
  | none =>
    match (record (l.clock l.readings now)).encode with
    | .error fault => ({ read with created := true }, [l.failure fault.message])
    | .ok line => ({ read with created := true, records := l.records ++ [line] }, [])

/-- The content of the file, if there is one: every record ends in a line feed. -/
def content? (l : ChatLog) : Option String :=
  if l.created then some (String.join (l.records.map (· ++ "\n"))) else none

/-- The record of a broadcast message at a local time. -/
def chatLine (username text : Text) (time : Instant) : Text :=
  time.localText ++ " | " ++ username ++ " | " ++ text

/-- The record of a private message at a local time, without its text. -/
def privateLine (sender recipient : Text) (length : Nat) (time : Instant) : Text :=
  time.localText ++ " | [PRIVATE " ++ sender ++ "→" ++ recipient ++ "] | " ++ toString length ++ " chars"

end ChatLog

namespace Hub

def create (store : Store) (cache : Rates.Cache) (surroundings : BuiltIn.Surroundings) (chatLog : ChatLog) : Hub :=
  ⟨store, ⟨surroundings, cache⟩, chatLog⟩

def refuse {α : Type} (hub : Hub) (connection : String) (refusal : Refusal) (value : α)
    (before : List Effect) : Outcome α :=
  ⟨value, hub,
    before ++
      [.log (.debug (refusal.kind.name ++ " for connection_id=" ++ connection ++ ": " ++ refusal.message)),
       .caller connection (.ofFailure refusal.failure)]⟩

/-- An operation that ends in an error that nobody planned for. -/
def raise {α : Type} (hub : Hub) (connection message : String) (value : α) : Outcome α :=
  ⟨value, hub, [.raised connection message]⟩

/-- Tells everybody who is online. -/
def presence (store : Store) : List Effect :=
  let names := store.online
  [.log (.debug ("Presence refresh: " ++ toString names.length ++ " online")), .all (.onlineUsers names)]

/-! ## Connections -/

/-- The broadcast history for the caller. -/
def getHistory (hub : Hub) (connection : String) : Outcome (List Message) :=
  ⟨hub.store.history, hub, [.caller connection (.history hub.store.history)]⟩

/-- A new connection gets the broadcast history. -/
def connect (hub : Hub) (connection : String) : Outcome Unit :=
  let outcome := hub.getHistory connection
  ⟨(), outcome.hub, outcome.effects⟩

/-- A closed connection loses its session. -/
def disconnect (hub : Hub) (now : Instant) (connection : String) : Outcome Unit :=
  match hub.store.disconnect now connection with
  | (none, store) =>
    ⟨(), { hub with store }, [.log (.info ("Connection " ++ connection ++ " closed"))]⟩
  | (some user, store) =>
    ⟨(), { hub with store },
      .log (.info ("User " ++ user.username ++ " (connection_id=" ++ connection ++ ") disconnected")) ::
        presence store⟩

/-- A sign of life is answered. -/
def heartbeat (hub : Hub) (now : Instant) (connection : String) : Outcome Unit :=
  ⟨(), hub, [.caller connection (.heartbeatAck now)]⟩

/-! ## Broadcast messages and commands -/

/-- Runs a text as a command; the reply goes to the caller alone. -/
def command (hub : Hub) (now : Instant) (connection : String) (user : Option User) (text : Text) :
    Outcome (Option Message) :=
  let who := (user.map (·.username)).getD Dispatcher.anonymous
  let (reply, commands, effects) :=
    BuiltIn.dispatcher.dispatch Effect.log (BuiltIn.run hub.store ⟨user, now⟩) who text hub.commands
  ⟨none, { hub with commands }, effects ++ [.caller connection (.system reply now)]⟩

/-- A text from a connection: a command, or a message for everybody. -/
def message (hub : Hub) (now : Instant) (connection : String) (text : Option Text) :
    Outcome (Option Message) :=
  let text := text.getD ""
  let user := hub.store.session? connection
  if BuiltIn.dispatcher.isCommand text then hub.command now connection user text
  else
    match user with
    | none => hub.refuse connection .loginToSend none []
    | some user =>
      match Store.textFault? text with
      | some refusal => hub.refuse connection refusal none []
      | none =>
        let (message, store) := hub.store.post now user.username text
        let (chatLog, logged) := hub.chatLog.append now (ChatLog.chatLine user.username text)
        ⟨some message, { hub with store, chatLog },
          .log (.info ("Chat from " ++ user.username ++ ": " ++ text)) :: logged ++ [.all (.chat message)]⟩

/-! ## Accounts -/

def register (hub : Hub) (now : Instant) (connection : String) (username email password : Option Text) :
    Outcome (Option User) :=
  match hub.store.register now username email password with
  | .error (.refused refusal) => hub.refuse connection refusal none []
  | .error (.unencodable fault) => hub.raise connection fault.message none
  | .ok (user, store) =>
    ⟨some user, { hub with store },
      [.log (.info ("User '" ++ user.username ++ "' registered from connection_id=" ++ connection)),
       .caller connection (.registerSuccess user)]⟩

def login (hub : Hub) (now : Instant) (connection : String) (username password : Option Text) :
    Outcome (Option User) :=
  match hub.store.login now username password connection with
  | .error refusal =>
    hub.refuse connection refusal none
      [.log (.warning ("Failed login for '" ++ optionalText username ++ "' on connection_id=" ++ connection))]
  | .ok (user, store) =>
    ⟨some user, { hub with store },
      .log (.info ("User '" ++ user.username ++ "' logged in on connection_id=" ++ connection)) ::
        .caller connection (.loginSuccess user) :: presence store⟩

/-- A logout is always acknowledged. -/
def logout (hub : Hub) (now : Instant) (connection : String) : Outcome (Option User) :=
  match hub.store.logout now connection with
  | (none, store) => ⟨none, { hub with store }, [.caller connection .logoutSuccess]⟩
  | (some user, store) =>
    ⟨some user, { hub with store },
      .log (.info ("User '" ++ user.username ++ "' logged out from connection_id=" ++ connection)) ::
        .caller connection .logoutSuccess :: presence store⟩

/-! ## Private messages -/

/-- A private message with the names of both sides. -/
def delivery (m : PrivateMessage) (sender recipient : Text) : Delivery :=
  ⟨m.id, sender, recipient, m.text, m.timestamp, m.isRead⟩

/-- The delivery to a recipient who is online on another connection. -/
def deliver (store : Store) (connection : String) (recipient : Text) (d : Delivery) : List Effect :=
  match store.user? recipient with
  | none => []
  | some user =>
    match user.connection with
    | some other => if user.isOnline && other ≠ connection then [.to other (.privateMessage d)] else []
    | none => []

/-- A private message: shown to the sender, and to the recipient if online. -/
def sendPrivate (hub : Hub) (now : Instant) (connection : String) (recipient text : Option Text) :
    Outcome (Option PrivateMessage) :=
  match hub.store.session? connection with
  | none => hub.refuse connection .notLoggedIn none []
  | some sender =>
    match hub.store.sendPrivate now sender.id recipient text with
    | .error refusal => hub.refuse connection refusal none []
    | .ok (message, store) =>
      let name := optionalText recipient
      let d := delivery message sender.username name
      let (chatLog, logged) :=
        hub.chatLog.append now (ChatLog.privateLine sender.username name message.text.length)
      ⟨some message, { hub with store, chatLog },
        .log (.info ("📨 PRIVATE from " ++ sender.username ++ " to " ++ name ++ " (" ++
            toString message.text.length ++ " chars)")) ::
          logged ++ .caller connection (.privateMessage d) :: deliver store connection name d⟩

/-- The name of one of two accounts. -/
def nameOf (a b : User) (id : Id) : Text := if id = b.id then b.username else a.username

/-- The conversation of the caller with another account. -/
def getPrivateHistory (hub : Hub) (connection : String) (username : Option Text) :
    Outcome (Option (List PrivateMessage)) :=
  match hub.store.session? connection with
  | none => hub.refuse connection .notLoggedIn none []
  | some user =>
    match hub.store.user? username with
    | none => hub.refuse connection (.unknownUser username) none []
    | some other =>
      let messages := hub.store.privateHistory user.id other.id
      let deliveries := messages.map fun m => delivery m (nameOf user other m.sender) (nameOf user other m.recipient)
      ⟨some messages, hub, [.caller connection (.privateHistory other.username deliveries)]⟩

/-! ## Contacts -/

/-- Adds a contact; it is acknowledged also when it was there before. -/
def addContact (hub : Hub) (now : Instant) (connection : String) (username : Option Text) : Outcome Bool :=
  match hub.store.session? connection with
  | none => hub.refuse connection .notLoggedIn false []
  | some owner =>
    match hub.store.addContact now owner.id username with
    | .error refusal => hub.refuse connection refusal false []
    | .ok (added, store) =>
      let name := optionalText username
      ⟨true, { hub with store },
        (if added then [.log (.info (owner.username ++ " added " ++ name ++ " to contacts"))] else []) ++
          [.caller connection (.contactAdded name)]⟩

def getContacts (hub : Hub) (connection : String) : Outcome (Option (List ContactStatus)) :=
  match hub.store.session? connection with
  | none => hub.refuse connection .notLoggedIn none []
  | some owner =>
    let entries := hub.store.contactsOf owner.id
    ⟨some entries, hub, [.caller connection (.contacts entries)]⟩

/-! ## Requests -/

/-- What an operation did, without its value. -/
structure Done where
  hub : Hub
  effects : List Effect

def Done.of {α : Type} (outcome : Outcome α) : Done := ⟨outcome.hub, outcome.effects⟩

def answer (hub : Hub) (now : Instant) (connection : String) : Request → Done
  | .register username email password => .of (hub.register now connection (some username) (some email) (some password))
  | .login username password => .of (hub.login now connection (some username) (some password))
  | .logout => .of (hub.logout now connection)
  | .heartbeat => .of (hub.heartbeat now connection)
  | .chat text => .of (hub.message now connection (some text))
  | .privateMessage recipient text => .of (hub.sendPrivate now connection (some recipient) (some text))
  | .getHistory => .of (hub.getHistory connection)
  | .getPrivateHistory username => .of (hub.getPrivateHistory connection (some username))
  | .addContact username => .of (hub.addContact now connection (some username))
  | .getContacts => .of (hub.getContacts connection)

end Hub

end ChatService
