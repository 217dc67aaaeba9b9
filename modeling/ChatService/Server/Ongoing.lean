import ChatService.Server.Basic

/-!
# Work under way

The server does not do everything in one go. A registration or a login is carried out by a
thread while its connection waits, a command may wait for the network, and a connection
that was dropped waits to be closed before its session ends. Others are served in the
meantime, and what waits can be cancelled. Then a thread goes on with nobody to answer to,
and a dropped connection keeps its session.

A connection that waits reads nothing more, so a line that is not cancelled counts as
arriving when the thread or the network is done with it.
-/

namespace ChatService

namespace Server

/-! ## Lines -/

/-- The complete lines at the head of the bytes that wait, up to the first one that is too large, and the
bytes behind them. -/
def cutLines (limit : Nat) (waiting : List UInt8) : List (List UInt8) × List UInt8 :=
  match _cut : nextLine limit waiting with
  | .line content rest => (content :: (cutLines limit rest).1, (cutLines limit rest).2)
  | .oversized | .unfinished => ([], waiting)
termination_by waiting.length
decreasing_by all_goals exact length_nextLine _cut

/-- Handles lines one after the other. -/
def handleLines (s : Server) (now : Instant) (connection : String) : List (List UInt8) → Server × List ServerEvent
  | [] => (s, [])
  | line :: rest =>
    let (s', events) := s.handleLine now connection line
    let (s'', more) := s'.handleLines now connection rest
    (s'', events ++ more)

/-- The lines of a connection that are complete when something happens to it. -/
def arrived (s : Server) (connection : String) (o : Occurrence) : List (List UInt8) :=
  match s.clients.find? connection with
  | none => []
  | some client =>
    match o with
    | .bytes content => (cutLines s.limit (client.waiting ++ content)).1
    | .endOfFile => if client.waiting.isEmpty then [] else [client.waiting]
    | .reset | .cancel | .breakWriting | .breakClosing => []

/-! ## Met to the end -/

/-- What can happen to a server: a client connects, or something happens to a connection. -/
inductive Incident
  | accept (peer : String) (broken : Bool)
  | occur (connection : String) (occurrence : Occurrence)

/-- The server after an incident, and what could be seen. -/
def meet (s : Server) (now : Instant) : Incident → Server × List ServerEvent
  | .accept peer broken => ((s.accept peer broken).1, (s.accept peer broken).2.2)
  | .occur connection occurrence => s.occur now connection occurrence

/-- What comes out for something that ends a connection, before it is dropped; nothing if it goes on. -/
def lastWord? (s : Server) (connection : String) : Occurrence → Option (List ServerEvent)
  | .bytes content =>
    match s.clients.find? connection with
    | none => none
    | some client =>
      match nextLine s.limit (cutLines s.limit (client.waiting ++ content)).2 with
      | .oversized => some (refusal s.clients connection)
      | _ => none
  | .endOfFile => some []
  | .reset => some [.logged (resetNote connection)]
  | .cancel => some [.logged (cancelNote connection)]
  | .breakWriting | .breakClosing => none

end Server

/-- A request that a thread carries out. -/
def Request.inThread : Request → Bool
  | .register .. | .login .. => true
  | _ => false

/-- The request in a line, if it holds one. -/
def Request.ofLine? (line : List UInt8) : Option Request :=
  match Incoming.ofLine line with
  | .message type fields => Request.ofFields? type fields
  | _ => none

def ServerEvent.isFetched : ServerEvent → Bool
  | .fetched _ => true
  | _ => false

/-- A server with the work that is under way. -/
structure Ongoing where
  server : Server
  /-- The connections that were dropped and wait to be closed. -/
  leaving : Table String Connection
  /-- What threads still carry out, by the connections that asked for it and were cancelled. -/
  detached : List (String × Request)

namespace Ongoing

open Server (Incident Occurrence)

/-- Where a connection is cancelled in the handling of a line. -/
inductive Point
  /-- It waits for a thread or for the network, and nothing is changed yet. -/
  | waiting
  /-- It writes: everything is changed, and some of what comes out has come out. -/
  | writing (shown : Nat)
deriving DecidableEq, Repr

/-- A step of the server. -/
inductive Act
  /-- An incident, met to its end. -/
  | meet (incident : Incident)
  /-- Something ends a connection, which is dropped and waits to be closed. -/
  | leave (connection : String) (occurrence : Occurrence)
  /-- A connection is cancelled in the handling of the one line that something brings. -/
  | strike (connection : String) (occurrence : Occurrence) (point : Point)
  /-- A dropped connection is closed and its session ends. -/
  | finish (connection : String)
  /-- The same, but it is cancelled before everything has come out. -/
  | cut (connection : String) (shown : Nat)
  /-- A dropped connection is cancelled while it waits to be closed. -/
  | abandon (connection : String)
  /-- A thread carries out what a cancelled connection had asked for. -/
  | carry (place : Nat)

/-- A server with nothing under way. -/
def idle (server : Server) : Ongoing := ⟨server, .empty, []⟩

/-- Drops an open connection, which then waits to be closed. -/
def dismiss (w : Ongoing) (connection : String) (client : Connection) : Ongoing :=
  { w with server := w.server.drop connection, leaving := w.leaving.insert connection client }

def leave (w : Ongoing) (now : Instant) (connection : String) (occurrence : Occurrence) :
    Ongoing × List ServerEvent :=
  match w.server.clients.find? connection, w.server.lastWord? connection occurrence with
  | some client, some word =>
    let handled := w.server.handleLines now connection (w.server.arrived connection occurrence)
    ({ w with server := handled.1 }.dismiss connection client, handled.2 ++ word)
  | _, _ => (w, [])

/-- A connection is cancelled in the handling of a line. Only a thread and the network are waited for; a thread
goes on. -/
def strikeLine (w : Ongoing) (now : Instant) (connection : String) (client : Connection) (line : List UInt8) :
    Point → Ongoing × List ServerEvent
  | .writing shown =>
    let handled := w.server.handleLine now connection line
    ({ w with server := handled.1 }.dismiss connection client,
      handled.2.take shown ++ [.logged (Server.cancelNote connection)])
  | .waiting =>
    match Request.ofLine? line with
    | none => (w, [])
    | some request =>
      let events := (w.server.handleLine now connection line).2
      let seen := events.take 1 ++ events.filter (·.isFetched) ++ [.logged (Server.cancelNote connection)]
      if request.inThread then
        ({ w with detached := w.detached ++ [(connection, request)] }.dismiss connection client, seen)
      else if events.any (·.isFetched) then (w.dismiss connection client, seen)
      else (w, [])

def strike (w : Ongoing) (now : Instant) (connection : String) (occurrence : Occurrence) (point : Point) :
    Ongoing × List ServerEvent :=
  match w.server.clients.find? connection, w.server.arrived connection occurrence with
  | some client, [line] => w.strikeLine now connection client line point
  | _, _ => (w, [])

def finish (w : Ongoing) (now : Instant) (connection : String) : Ongoing × List ServerEvent :=
  match w.leaving.find? connection with
  | none => (w, [])
  | some client =>
    let released := w.server.release now connection
    ({ w with server := released.1, leaving := w.leaving.erase connection },
      Server.closingNotes connection (some client) ++ released.2)

/-- A thread that has nobody to answer to. -/
def carry (w : Ongoing) (now : Instant) (place : Nat) : Ongoing :=
  match w.detached[place]? with
  | none => w
  | some (connection, request) =>
    { w with
      server := { w.server with hub := (w.server.hub.answer now connection request).hub }
      detached := w.detached.eraseIdx place }

/-- The server after a step, and what could be seen. A step that is not possible changes nothing. -/
def act (w : Ongoing) (now : Instant) : Act → Ongoing × List ServerEvent
  | .meet incident => ({ w with server := (w.server.meet now incident).1 }, (w.server.meet now incident).2)
  | .leave connection occurrence => w.leave now connection occurrence
  | .strike connection occurrence point => w.strike now connection occurrence point
  | .finish connection => w.finish now connection
  | .cut connection shown => ((w.finish now connection).1, (w.finish now connection).2.take shown)
  | .abandon connection => ({ w with leaving := w.leaving.erase connection }, [])
  | .carry place => (w.carry now place, [])

/-- The server after some steps. -/
def after (w : Ongoing) (acts : List (Instant × Act)) : Ongoing := acts.foldl (fun w a => (w.act a.1 a.2).1) w

end Ongoing

end ChatService
