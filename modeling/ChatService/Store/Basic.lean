import ChatService.Password
import ChatService.Store.Record
import ChatService.Store.Refusal
import ChatService.Table
import ChatService.Text.Blank
import ChatService.Text.Case

/-!
# The store

All state of the chat: accounts with their indexes, the sessions that bind connections
to accounts, the broadcast history, private messages and contacts. Each operation is a
function on stores; the clock is an argument, and identities are drawn from a counter.

An account is online on at most one connection and a connection has at most one
account: a later login takes the place of an earlier one on either side.
-/

namespace ChatService

structure Store where
  /-- What hashes passwords and checks them. -/
  hasher : Hasher
  users : Table Id User
  byUsername : Table Text Id
  /-- Keys are in lower case. -/
  byEmail : Table Text Id
  /-- The account that a connection is logged in as. -/
  sessions : Table String Id
  /-- Broadcast messages, oldest first. -/
  history : List Message
  /-- Private messages in the order of sending. -/
  privateMessages : List PrivateMessage
  /-- Contacts in the order of adding. -/
  contacts : List Contact
  /-- How many identities were drawn. -/
  drawn : Nat
  /-- The most broadcast messages that are kept. -/
  maxHistory : Nat
  /-- The most private messages of a conversation that are shown. -/
  maxPrivateHistory : Int

namespace Store

def empty (hasher : Hasher) (maxHistory : Nat) (maxPrivateHistory : Int) : Store :=
  { hasher, users := .empty, byUsername := .empty, byEmail := .empty, sessions := .empty, history := []
    privateMessages := [], contacts := [], drawn := 0, maxHistory, maxPrivateHistory }

/-- The most broadcast messages that a store keeps unless it is told otherwise. -/
def defaultMaxHistory : Nat := 1000

/-- The most private messages that are shown unless a store is told otherwise. -/
def defaultMaxPrivateHistory : Int := 100

def nextId (s : Store) : Id := Id.ofNumber (s.drawn + 1)

def draw (s : Store) : Store := { s with drawn := s.drawn + 1 }

/-! ## Look-ups -/

def user? (s : Store) (username : Option Text) : Option User := do
  let username ← username
  let id ← s.byUsername.find? username
  s.users.find? id

/-- The account logged in on a connection. -/
def session? (s : Store) (connection : String) : Option User := do
  let id ← s.sessions.find? connection
  s.users.find? id

/-- The names of the accounts that are online, sorted. -/
def online (s : Store) : List Text :=
  ((s.users.values.filter (·.isOnline)).map (·.username)).mergeSort fun a b => decide (a ≤ b)

/-! ## Accounts and sessions -/

/-- What is wrong with the data of a new account before anything is looked up. -/
def registrationFault? (username email password : Text) : Option Refusal :=
  if username.length < minUsernameLength then some .usernameTooShort
  else if password.length < minPasswordLength then some .passwordTooShort
  else if !email.contains (.char '@') then some .emailWithoutAt
  else none

/-- A new account, offline, with the hash of its password. White space around username and email is dropped;
emails are compared without regard to case. The password is hashed before names are looked up. -/
def register (s : Store) (now : Instant) (username email password : Option Text) :
    Except RegisterFault (User × Store) :=
  let username := Text.strip (username.getD "")
  let email := Text.strip (email.getD "")
  let password := password.getD ""
  match registrationFault? username email password with
  | some refusal => .error (.refused refusal)
  | none =>
    match Password.digest? password with
    | .error fault => .error (.unencodable fault)
    | .ok digest =>
      if s.byUsername.contains username then .error (.refused (.usernameTaken username))
      else if s.byEmail.contains (Text.lowered email) then .error (.refused (.emailTaken email))
      else
        let user : User :=
          { id := s.nextId, username, email, password := s.hasher.hash s.drawn digest, isOnline := false
            connection := none, createdAt := now, lastSeen := now }
        .ok (user,
          { s.draw with
            users := s.users.insert user.id user
            byUsername := s.byUsername.insert username user.id
            byEmail := s.byEmail.insert (Text.lowered email) user.id })

/-- Ends the session on a connection. The account goes offline; without a session nothing happens. -/
def disconnect (s : Store) (now : Instant) (connection : String) : Option User × Store :=
  match s.sessions.find? connection with
  | none => (none, s)
  | some id =>
    let s := { s with sessions := s.sessions.erase connection }
    match s.users.find? id with
    | none => (none, s)
    | some user =>
      let user := { user with isOnline := false, connection := none, lastSeen := now }
      (some user, { s with users := s.users.insert id user })

/-- Logging out ends the session as closing the connection does. -/
def logout (s : Store) (now : Instant) (connection : String) : Option User × Store :=
  s.disconnect now connection

/-- Ends the session of another account on a connection. -/
def vacate (s : Store) (now : Instant) (connection : String) (id : Id) : Store :=
  match s.sessions.find? connection with
  | some previous => if previous = id then s else (s.disconnect now connection).2
  | none => s

/-- Takes the session of an account off the connection it had before. -/
def release (s : Store) (user : User) (connection : String) : Store :=
  match user.connection with
  | some old => if old ≠ "" ∧ old ≠ connection then { s with sessions := s.sessions.erase old } else s
  | none => s

/-- Binds a connection to an account, which comes online there. -/
def bind (s : Store) (now : Instant) (connection : String) (user : User) : User × Store :=
  let user' := { user with isOnline := true, connection := some connection, lastSeen := now }
  (user',
    { s with
      users := s.users.insert user.id user'
      sessions := s.sessions.insert connection user.id })

/-- Binds a connection to the account with these credentials. -/
def login (s : Store) (now : Instant) (username password : Option Text) (connection : String) :
    Except Refusal (User × Store) :=
  match s.user? username with
  | none => .error .badCredentials
  | some user =>
    if !s.hasher.verify (password.getD "") user.password then .error .badCredentials
    else
      let s := s.vacate now connection user.id
      .ok ((s.release user connection).bind now connection user)

/-! ## Broadcast messages -/

def lastItems {α : Type} (n : Nat) (l : List α) : List α := l.drop (l.length - n)

/-- A broadcast message at the end of the history; the oldest ones beyond the bound are dropped. -/
def post (s : Store) (now : Instant) (username text : Text) : Message × Store :=
  let message : Message := ⟨username, text, now⟩
  (message, { s with history := lastItems s.maxHistory (s.history ++ [message]) })

/-! ## Private messages -/

/-- What is wrong with the text of a message. -/
def textFault? (text : Text) : Option Refusal :=
  if Text.allBlank text then some .emptyText
  else if maxMessageLength < text.length then some .textTooLong
  else none

/-- A private message from an account to the one with a username. -/
def sendPrivate (s : Store) (now : Instant) (sender : Id) (recipient : Option Text)
    (text : Option Text) : Except Refusal (PrivateMessage × Store) :=
  let text := text.getD ""
  match textFault? text with
  | some refusal => .error refusal
  | none =>
    match recipient.bind s.byUsername.find? with
    | none => .error (.unknownUser recipient)
    | some id =>
      if id = sender then .error .messageToSelf
      else
        let message : PrivateMessage :=
          { id := s.nextId, sender, recipient := id, text, timestamp := now, isRead := false }
        .ok (message, { s.draw with privateMessages := s.privateMessages ++ [message] })

/-- Whether a message went between two accounts, in either direction. -/
def between (a b : Id) (m : PrivateMessage) : Bool :=
  ((m.sender = a ∧ m.recipient = b) ∨ (m.sender = b ∧ m.recipient = a)) ∧ m.sender ≠ m.recipient

/-- The part of a conversation that is shown for a bound: its last messages for a positive bound, all of
them for the bound zero, and all but the first ones for a negative bound. -/
def window {α : Type} (bound : Int) (conversation : List α) : List α :=
  if 0 < bound then lastItems bound.toNat conversation else conversation.drop (-bound).toNat

/-- The conversation between two accounts, oldest message first. Messages of one instant stay in the
order of sending. -/
def conversation (s : Store) (a b : Id) : List PrivateMessage :=
  (s.privateMessages.filter (between a b)).mergeSort fun m n =>
    decide (m.timestamp.micros ≤ n.timestamp.micros)

/-- The part of a conversation that is shown. -/
def privateHistory (s : Store) (a b : Id) : List PrivateMessage :=
  window s.maxPrivateHistory (s.conversation a b)

/-! ## Contacts -/

/-- Adds the account with a username to the contacts of another; whether it was not there yet. -/
def addContact (s : Store) (now : Instant) (owner : Id) (target : Option Text) :
    Except Refusal (Bool × Store) :=
  match target.bind s.byUsername.find? with
  | none => .error (.unknownUser target)
  | some id =>
    if id = owner then .error .contactToSelf
    else if s.contacts.any fun c => c.owner = owner ∧ c.target = id then .ok (false, s)
    else
      let contact : Contact :=
        { id := s.nextId, owner, target := id, displayName := optionalText target, addedAt := now }
      .ok (true, { s.draw with contacts := s.contacts ++ [contact] })

/-- The contacts of an account, in the order of adding, as they are at the moment. -/
def contactsOf (s : Store) (owner : Id) : List ContactStatus :=
  (s.contacts.filter (·.owner = owner)).filterMap fun c =>
    (s.users.find? c.target).map fun u => ⟨u.username, u.isOnline, u.lastSeen⟩

end Store

end ChatService
