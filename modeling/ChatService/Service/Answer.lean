import ChatService.Json.Basic

/-!
# Answers of foreign services

What can come of asking a foreign service, and what a look-up makes of it when there is
no usable result.
-/

namespace ChatService

/-- What a service answers: a status, and the body as text and as a value, each with the reason if it is none. -/
structure ServiceResponse where
  status : Int
  text : Except String Text
  body : Except String Json
  /-- How many microseconds pass until the answer is there. -/
  took : Nat

/-- What comes of one request. -/
inductive ServiceAnswer
  | response (r : ServiceResponse)
  | clientError (message : String)
  | timeout
  /-- Something failed that is nobody's plan. -/
  | crash (message : String)
  /-- The request never ends by itself. -/
  | silence

/-- How many microseconds pass before an answer can be used. -/
def ServiceAnswer.took : ServiceAnswer → Nat
  | response r => r.took
  | clientError _ | timeout | crash _ | silence => 0

/-- Why a look-up has no result. -/
inductive LookupFailure
  /-- The service is unavailable; the text says how. -/
  | unavailable (message : String)
  | crash (message : String)
  /-- A whole number beyond the doubles. -/
  | overflow
  /-- No end by itself. -/
  | silence
deriving DecidableEq, Repr

/-- The answers that successive requests meet. -/
abbrev Answers := List ServiceAnswer

/-- The answer to the next request; with none left the connection fails. -/
def Answers.next : Answers → ServiceAnswer × Answers
  | [] => (.clientError "no answer", [])
  | answer :: rest => (answer, rest)

/-- A look-up that has ended. -/
structure Lookup (α : Type) where
  result : Except LookupFailure α
  /-- The addresses that were asked, in order. -/
  asked : List String
  /-- The answers that later requests meet. -/
  left : Answers

/-- The text of a failure inside a sentence. -/
def LookupFailure.message : LookupFailure → String
  | unavailable message => message
  | crash message => message
  | overflow => "int too large to convert to float"
  | silence => ""

end ChatService
