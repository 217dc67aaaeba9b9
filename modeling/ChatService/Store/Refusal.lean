import ChatService.Failure
import ChatService.Text.Encoding

/-!
# Refusals

The reasons for which a request is refused, each with the kind and the words that the
user is told.
-/

namespace ChatService

/-- The fewest characters of a username. -/
def minUsernameLength : Nat := 3

/-- The fewest characters of a password. -/
def minPasswordLength : Nat := 6

/-- The most characters of a message. -/
def maxMessageLength : Nat := 1000

/-- A text that may be missing, inside a sentence. -/
def optionalText (s : Option Text) : Text := s.getD "None"

inductive Refusal
  | usernameTooShort
  | passwordTooShort
  | emailWithoutAt
  | usernameTaken (username : Text)
  | emailTaken (email : Text)
  | badCredentials
  | emptyText
  | textTooLong
  | unknownUser (username : Option Text)
  | messageToSelf
  | contactToSelf
  /-- A broadcast message without a session. -/
  | loginToSend
  /-- Any other request without a session. -/
  | notLoggedIn
  /-- The contacts command without a session. -/
  | loginToSeeContacts
deriving DecidableEq, Repr

namespace Refusal

def kind : Refusal → FailureKind
  | usernameTooShort | passwordTooShort | emailWithoutAt | emptyText | textTooLong => .validation
  | usernameTaken _ | emailTaken _ => .conflict
  | badCredentials | loginToSend | notLoggedIn | loginToSeeContacts => .auth
  | unknownUser _ => .notFound
  | messageToSelf => .selfMessage
  | contactToSelf => .selfContact

def message : Refusal → Text
  | usernameTooShort => "Username must be at least " ++ toString minUsernameLength ++ " characters"
  | passwordTooShort => "Password must be at least " ++ toString minPasswordLength ++ " characters"
  | emailWithoutAt => "Email must contain '@'"
  | usernameTaken username => "Username already taken: " ++ username
  | emailTaken email => "Email already registered: " ++ email
  | badCredentials => "Invalid username or password"
  | emptyText => "Message text cannot be empty"
  | textTooLong => "Message text cannot exceed " ++ toString maxMessageLength ++ " characters"
  | unknownUser username => "User not found: " ++ optionalText username
  | messageToSelf => "You cannot send a private message to yourself"
  | contactToSelf => "You cannot add yourself as a contact"
  | loginToSend => "Log in to send messages"
  | notLoggedIn => "Not logged in"
  | loginToSeeContacts => "Log in to see your contacts"

def failure (r : Refusal) : Failure := ⟨r.kind, r.message⟩

end Refusal

/-- Why a registration makes no account. -/
inductive RegisterFault
  | refused (refusal : Refusal)
  /-- The password has no bytes: no refusal, but an error that nobody planned for. -/
  | unencodable (fault : EncodeFault)
deriving DecidableEq, Repr

end ChatService
