import ChatService.Hub.Basic
import ChatService.Json.Printer
import ChatService.Server.Line

/-!
# The server

The server keeps the open connections, hands each complete line to the hub as a request,
and delivers what the hub sends. A connection ends when its client closes it, when
reading fails, when it is cancelled, or when a line is too large: it is dropped, closed,
and its session ends. Writing to a broken connection fails and is only reported.

Here everything is met to its end before anything else happens. What happens between the
steps of a line or of an ending is told in `ChatService.Server.Ongoing`.
-/

namespace ChatService

structure Connection where
  /-- The bytes that wait for their line feed. -/
  waiting : List UInt8
  /-- Writing to it fails. -/
  broken : Bool
  /-- Closing it fails. -/
  closeFails : Bool
deriving DecidableEq, Repr

structure Server where
  hub : Hub
  /-- The open connections by their identities, oldest first. -/
  clients : Table String Connection
  /-- The most bytes of a line. -/
  limit : Nat

/-- One thing that can be seen from outside. -/
inductive ServerEvent
  /-- A reply was written to a connection. -/
  | sent (connection : String) (reply : Reply)
  | logged (line : LogLine)
  | fetched (address : String)
deriving DecidableEq, Repr

namespace Server

def create (hub : Hub) (limit : Nat) : Server := ⟨hub, .empty, limit⟩

/-- The most bytes of a line, not counting the line feed, that a request may have. -/
def maxLineSize : Nat := 1048576

/-- The limit that lines are read with when requests may have a number of bytes: one byte more. -/
def limitFor (lineSize : Nat) : Nat := lineSize + 1

/-- The limit unless a server is told otherwise. -/
def defaultLimit : Nat := limitFor maxLineSize

/-- The bytes of a reply on the wire. -/
def lineOf (r : Reply) : String := r.toJson.wireText ++ "\n"

/-! ## Delivery -/

/-- Writes to one connection; whether that worked. -/
def sendTo (clients : Table String Connection) (connection : String) (r : Reply) : Bool × List ServerEvent :=
  match clients.find? connection with
  | none => (false, [])
  | some client =>
    if client.broken then
      (false, [.logged (.error ("Failed to send to connection_id=" ++ connection ++ ": broken"))])
    else (true, [.sent connection r])

/-- Writes to every connection, oldest first. -/
def broadcast (clients : Table String Connection) (r : Reply) : List ServerEvent :=
  .logged (.debug ("[BROADCAST] type=" ++ r.typeName ++ " to " ++ toString clients.keys.length ++ " clients")) ::
    clients.entries.map fun (connection, client) =>
      if client.broken then
        .logged (.error ("Failed to broadcast to connection_id=" ++ connection ++ ": broken"))
      else .sent connection r

/-- What is reported of a request that ended in an error. -/
def processingError (connection reason : String) : LogLine :=
  .error ("Error processing message from connection_id=" ++ connection ++ ": " ++ reason)

def perform (clients : Table String Connection) : Effect → List ServerEvent
  | .caller connection r => (sendTo clients connection r).2
  | .to connection r => (sendTo clients connection r).2
  | .all r => broadcast clients r
  | .log line => [.logged line]
  | .fetched address => [.fetched address]
  | .raised connection reason => [.logged (processingError connection reason)]

def performAll (clients : Table String Connection) (effects : List Effect) : List ServerEvent :=
  effects.flatMap (perform clients)

/-! ## Lines -/

def handleLine (s : Server) (now : Instant) (connection : String) (line : List UInt8) :
    Server × List ServerEvent :=
  match Incoming.ofLine line with
  | .malformed reason =>
    (s, .logged (.error ("Malformed JSON from connection_id=" ++ connection ++ ": " ++ reason)) ::
      (sendTo s.clients connection (.error "Malformed JSON" Envelope.plainErrorCode)).2)
  | .unreadable reason => (s, [.logged (processingError connection reason)])
  | .untyped =>
    (s, [.logged (.warning ("Received message with invalid type from connection_id=" ++ connection))])
  | .message type fields =>
    let received := .logged (.debug ("Received from connection_id=" ++ connection ++ ": " ++ type))
    match Request.ofFields? type fields with
    | none =>
      (s, [received,
        .logged (.warning ("Unknown message type '" ++ type ++ "' from connection_id=" ++ connection))])
    | some request =>
      let done := s.hub.answer now connection request
      ({ s with hub := done.hub }, received :: performAll s.clients done.effects)

/-! ## Closing -/

/-- Drops a connection: nothing is read from it or written to it any more. -/
def drop (s : Server) (connection : String) : Server := { s with clients := s.clients.erase connection }

/-- What is reported of the closing of a connection. -/
def closingNotes (connection : String) : Option Connection → List ServerEvent
  | some client =>
    if client.closeFails then
      [.logged (.debug ("Error closing connection_id=" ++ connection ++ ": broken close"))]
    else []
  | none => []

/-- Ends the session of a connection that was dropped. -/
def release (s : Server) (now : Instant) (connection : String) : Server × List ServerEvent :=
  let outcome := s.hub.disconnect now connection
  ({ s with hub := outcome.hub }, performAll s.clients outcome.effects)

/-- Drops a connection, closes it, and ends its session, with nothing in between. -/
def close (s : Server) (now : Instant) (connection : String) : Server × List ServerEvent :=
  let (s', events) := (s.drop connection).release now connection
  (s', closingNotes connection (s.clients.find? connection) ++ events)

/-- What comes out for a line that is too large. -/
def refusal (clients : Table String Connection) (connection : String) : List ServerEvent :=
  .logged (.warning ("Message too large from connection_id=" ++ connection)) ::
    (sendTo clients connection (.error "Message too large" Envelope.plainErrorCode)).2

/-- Ends a connection whose line is too large. -/
def refuseLine (s : Server) (now : Instant) (connection : String) : Server × List ServerEvent :=
  let (s', events) := s.close now connection
  (s', refusal s.clients connection ++ events)

/-! ## Arriving bytes -/

/-- Handles the complete lines among the bytes that wait, and keeps the rest. -/
def drain (s : Server) (now : Instant) (connection : String) (waiting : List UInt8) :
    Server × List ServerEvent :=
  match _cut : nextLine s.limit waiting with
  | .oversized => s.refuseLine now connection
  | .unfinished =>
    match s.clients.find? connection with
    | none => (s, [])
    | some client => ({ s with clients := s.clients.insert connection { client with waiting } }, [])
  | .line content rest =>
    let (s', events) := s.handleLine now connection content
    let (s'', more) := s'.drain now connection rest
    (s'', events ++ more)
termination_by waiting.length
decreasing_by exact length_nextLine _cut

/-- Bytes arrive on a connection. Nothing happens when it is over. -/
def receive (s : Server) (now : Instant) (connection : String) (bytes : List UInt8) :
    Server × List ServerEvent :=
  match s.clients.find? connection with
  | none => (s, [])
  | some client => s.drain now connection (client.waiting ++ bytes)

/-! ## What can happen to a connection -/

/-- Something that happens to a connection. -/
inductive Occurrence
  | bytes (content : List UInt8)
  /-- The client closes; an unfinished line is still handled. -/
  | endOfFile
  | reset
  | cancel
  /-- From now on writing fails. -/
  | breakWriting
  /-- Closing will fail. -/
  | breakClosing
deriving DecidableEq, Repr

/-- A client connects from an address. The identity of the connection is drawn like any other. -/
def accept (s : Server) (peer : String) (broken : Bool) : Server × String × List ServerEvent :=
  let connection := s.hub.store.nextId.text
  let hub := { s.hub with store := s.hub.store.draw }
  let clients := s.clients.insert connection ⟨[], broken, false⟩
  let outcome := hub.connect connection
  ({ s with hub := outcome.hub, clients }, connection,
    .logged (.info ("New connection from " ++ peer ++ ", assigned connection_id=" ++ connection)) ::
      performAll clients outcome.effects)

def resetNote (connection : String) : LogLine :=
  .error ("Socket error for connection_id=" ++ connection ++ ": reset")

def cancelNote (connection : String) : LogLine := .info ("Connection cancelled for connection_id=" ++ connection)

/-- Ends a connection with a line in the log. -/
def closeLogged (s : Server) (now : Instant) (connection : String) (line : LogLine) :
    Server × List ServerEvent :=
  let (s', events) := s.close now connection
  (s', .logged line :: events)

/-- Something happens to a connection that waits for a line, and is met to its end. Nothing happens to one that
is over. -/
def occur (s : Server) (now : Instant) (connection : String) (o : Occurrence) :
    Server × List ServerEvent :=
  match s.clients.find? connection with
  | none => (s, [])
  | some client =>
    match o with
    | .bytes content => s.receive now connection content
    | .endOfFile =>
      if client.waiting.isEmpty then s.close now connection
      else
        let (s', events) := s.handleLine now connection client.waiting
        let (s'', more) := s'.close now connection
        (s'', events ++ more)
    | .reset => s.closeLogged now connection (resetNote connection)
    | .cancel => s.closeLogged now connection (cancelNote connection)
    | .breakWriting =>
      ({ s with clients := s.clients.insert connection { client with broken := true } }, [])
    | .breakClosing =>
      ({ s with clients := s.clients.insert connection { client with closeFails := true } }, [])

end Server

end ChatService
