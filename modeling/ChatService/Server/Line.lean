import ChatService.Json.Reader
import ChatService.Text.Blank
import ChatService.Text.Utf8

/-!
# Lines

Requests arrive as lines that end in a line feed. `nextLine` cuts the first line off the
bytes that wait; a line with more bytes than the limit is refused, finished or not.
`Incoming.ofLine` says what a line holds.
-/

namespace ChatService

/-- The first line of the bytes that wait. -/
inductive NextLine
  /-- A line without its line feed, and the bytes behind it. -/
  | line (content rest : List UInt8)
  /-- More bytes than a line may have. -/
  | oversized
  | unfinished
deriving DecidableEq, Repr

def nextLine (limit : Nat) (waiting : List UInt8) : NextLine :=
  let content := waiting.takeWhile (· != lineFeed)
  match waiting.dropWhile (· != lineFeed) with
  | [] => if limit < content.length then .oversized else .unfinished
  | _ :: rest => if limit < content.length then .oversized else .line content rest

theorem length_nextLine {limit : Nat} {waiting content rest : List UInt8}
    (h : nextLine limit waiting = .line content rest) : rest.length < waiting.length := by
  unfold nextLine at h
  simp only at h
  have le := (List.dropWhile_sublist (fun b => b != lineFeed) (l := waiting)).length_le
  split at h
  · split at h <;> cases h
  · next d tail eq =>
    split at h
    · cases h
    · cases h
      rw [eq] at le
      simp only [List.length_cons] at le
      omega

/-- What a line holds. -/
inductive Incoming
  /-- An object with a type. -/
  | message (type : Text) (fields : List (Text × Json))
  /-- A value that is no object or has no type. -/
  | untyped
  /-- No value, for a reason. -/
  | malformed (reason : String)
  /-- A value that cannot be held, for a reason. -/
  | unreadable (reason : String)

/-- What a line holds. White space around it does not matter. -/
def Incoming.ofLine (line : List UInt8) : Incoming :=
  match Text.ofUtf8? line with
  | none => .malformed (((Text.decodeFault? 0 line).map (·.message)).getD "")
  | some text =>
    match Json.read (Text.strip text.toList) with
    | .error (.malformed stop) => .malformed (stop.message (Text.strip text.toList))
    | .error (.oversized digits) => .unreadable (Json.oversizedMessage digits)
    | .ok (.obj fields) =>
      match Json.lookup "type" fields with
      | some (.str type) => .message type fields
      | _ => .untyped
    | .ok _ => .untyped

end ChatService
