import ChatService.Instant
import ChatService.Text.Basic

/-!
# Records

What the store keeps: accounts, broadcast messages, private messages and contacts.
-/

namespace ChatService

structure Id where
  text : String
deriving DecidableEq, Repr

/-- The identity drawn at a number: its hexadecimal digits, filled up to 32. -/
def Id.ofNumber (n : Nat) : Id :=
  let digits := Nat.toDigits 16 n
  ⟨String.ofList (List.replicate (32 - digits.length) '0' ++ digits)⟩

/-- A registered account. While it is online, `connection` is the connection it is logged in on. -/
structure User where
  id : Id
  username : Text
  email : Text
  /-- The hash of the password's digest. -/
  password : String
  isOnline : Bool
  connection : Option String
  createdAt : Instant
  lastSeen : Instant
deriving DecidableEq, Repr

/-- A broadcast message with the name that its author had. -/
structure Message where
  username : Text
  text : Text
  timestamp : Instant
deriving DecidableEq, Repr

/-- A message from one account to another. -/
structure PrivateMessage where
  id : Id
  sender : Id
  recipient : Id
  text : Text
  timestamp : Instant
  isRead : Bool
deriving DecidableEq, Repr

/-- One account in the list of another. -/
structure Contact where
  id : Id
  owner : Id
  target : Id
  displayName : Text
  addedAt : Instant
deriving DecidableEq, Repr

/-- A contact as it is at the moment. -/
structure ContactStatus where
  username : Text
  isOnline : Bool
  lastSeen : Instant
deriving DecidableEq, Repr

end ChatService
