import ChatService.Text.Basic

/-!
# Failures

The kinds of expected failures. They form a tree below the general chat failure, and
each has a code that clients see.
-/

namespace ChatService

/-- The kinds of expected failures. -/
inductive FailureKind
  | chat
  /-- Malformed input: too short, too long, missing. -/
  | validation
  /-- A username or email that is taken. -/
  | conflict
  /-- Bad credentials, or no session on the connection. -/
  | auth
  /-- An unknown username. -/
  | notFound
  | selfReference
  | selfMessage
  | selfContact
  /-- An expression without a value. -/
  | evaluation
  | expressionSyntax
  | divideByZero
  /-- A foreign service that does not answer, or not in its form. -/
  | externalUnavailable
deriving DecidableEq, Repr

namespace FailureKind

def all : List FailureKind :=
  [chat, validation, conflict, auth, notFound, selfReference, selfMessage, selfContact, evaluation,
   expressionSyntax, divideByZero, externalUnavailable]

def name : FailureKind → String
  | chat => "ChatError"
  | validation => "ValidationError"
  | conflict => "ConflictError"
  | auth => "AuthError"
  | notFound => "NotFoundError"
  | selfReference => "SelfReferenceError"
  | selfMessage => "SelfMessageError"
  | selfContact => "SelfContactError"
  | evaluation => "EvaluationError"
  | expressionSyntax => "ExpressionSyntaxError"
  | divideByZero => "DivideByZeroError"
  | externalUnavailable => "ExternalUnavailableError"

/-- The code that clients are told. -/
def code : FailureKind → String
  | chat => "chat_error"
  | validation => "validation_error"
  | conflict => "conflict_error"
  | auth => "auth_error"
  | notFound => "not_found_error"
  | selfReference => "self_reference_error"
  | selfMessage => "self_message_error"
  | selfContact => "self_contact_error"
  | evaluation => "evaluation_error"
  | expressionSyntax => "syntax_error"
  | divideByZero => "divide_by_zero_error"
  | externalUnavailable => "external_unavailable_error"

def ofName? (name : String) : Option FailureKind := all.find? (·.name == name)

/-- The kinds that a kind belongs to, itself first and the general one last. -/
def lineage : FailureKind → List FailureKind
  | chat => [chat]
  | selfMessage => [selfMessage, selfReference, chat]
  | selfContact => [selfContact, selfReference, chat]
  | expressionSyntax => [expressionSyntax, evaluation, chat]
  | divideByZero => [divideByZero, evaluation, chat]
  | kind => [kind, chat]

end FailureKind

structure Failure where
  kind : FailureKind
  message : Text
deriving DecidableEq, Repr

end ChatService
