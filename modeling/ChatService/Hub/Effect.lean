import ChatService.Log
import ChatService.Protocol.Reply

/-!
# Effects

What the hub does besides changing its state, in the order in which it does it.
-/

namespace ChatService

inductive Effect
  /-- A reply to the connection that asked. -/
  | caller (connection : String) (reply : Reply)
  /-- A message to another connection. -/
  | to (connection : String) (reply : Reply)
  /-- A message to every connection. -/
  | all (reply : Reply)
  | log (line : LogLine)
  /-- A foreign service was asked at an address. -/
  | fetched (address : String)
  /-- The request of a connection ended in an error that nobody planned for. -/
  | raised (connection : String) (message : String)
deriving DecidableEq, Repr

end ChatService
