import ChatService.Proofs.Hub.Conduct
import ChatService.Server.Ongoing

/-!
# Runs of the server

A run is a finite sequence of incidents: clients connect, and things happen to
connections. What happens to a connection is first the handling of the lines that are
complete by then, one after the other, and then the connection ends or goes on
(`occur_cases`). So every run is a path of a few kinds of moves, and what no move breaks
holds after every run.
-/

namespace ChatService

open Effect (sent)

/-- The bytes of a request as a client sends them. -/
def Request.line (request : Request) : List UInt8 := ((request.toJson ⟨0⟩).wireText ++ "\n").toUTF8.toList

/-- What a request asks the hub for. -/
def Hub.Operation.ofRequest : Request → Hub.Operation
  | .register username email password => .register (some username) (some email) (some password)
  | .login username password => .login (some username) (some password)
  | .logout => .logout
  | .heartbeat => .heartbeat
  | .chat text => .message (some text)
  | .privateMessage recipient text => .sendPrivate (some recipient) (some text)
  | .getHistory => .getHistory
  | .getPrivateHistory username => .getPrivateHistory (some username)
  | .addContact username => .addContact (some username)
  | .getContacts => .getContacts

theorem Hub.answer_eq_perform (hub : Hub) (now : Instant) (connection : String) (request : Request) :
    hub.answer now connection request = hub.perform ⟨now, connection, .ofRequest request⟩ := by
  cases request <;> rfl

namespace Server

/-! ## Lines -/

/-- Keeps bytes without a complete line, or ends the connection when they are too many. -/
def settle (s : Server) (now : Instant) (connection : String) (waiting : List UInt8) : Server × List ServerEvent :=
  match nextLine s.limit waiting with
  | .oversized => s.refuseLine now connection
  | _ =>
    match s.clients.find? connection with
    | none => (s, [])
    | some client => ({ s with clients := s.clients.insert connection { client with waiting } }, [])

variable {s s' : Server} {now : Instant} {connection : String}

/-- The message that a line posts for everybody. -/
def postedByLine? (s : Server) (now : Instant) (connection : String) (line : List UInt8) : Option Message :=
  match Incoming.ofLine line with
  | .message type fields =>
    match Request.ofFields? type fields with
    | some request => s.hub.posted? ⟨now, connection, .ofRequest request⟩
    | none => none
  | _ => none

/-- What a line does: it is only reported, or it is answered as no request, or the hub performs a request. -/
theorem handleLine_cases (s : Server) (now : Instant) (connection : String) (line : List UInt8)
    {P : Option Message → Server × List ServerEvent → Prop}
    (reported : ∀ lines : List LogLine, P none (s, lines.map .logged))
    (complained : ∀ (l : LogLine) (message : String),
      P none (s, .logged l :: (sendTo s.clients connection (.error message Envelope.plainErrorCode)).2))
    (performed : ∀ (l : LogLine) (request : Request),
      let step : Hub.Step := ⟨now, connection, .ofRequest request⟩
      P (s.hub.posted? step)
        ({ s with hub := (s.hub.perform step).hub }, .logged l :: performAll s.clients (s.hub.perform step).effects)) :
    P (s.postedByLine? now connection line) (s.handleLine now connection line) := by
  unfold handleLine postedByLine?
  cases Incoming.ofLine line with
  | malformed => exact complained _ _
  | unreadable => exact reported [_]
  | untyped => exact reported [_]
  | message type fields =>
    simp only
    cases Request.ofFields? type fields with
    | none => exact reported [_, _]
    | some request =>
      simp only [Hub.answer_eq_perform]
      exact performed _ request

@[simp] theorem clients_handleLine (s : Server) (now : Instant) (connection : String) (line : List UInt8) :
    (s.handleLine now connection line).1.clients = s.clients := by
  apply handleLine_cases s now connection line (P := fun _ r => r.1.clients = s.clients)
  · intro _; rfl
  · intro _ _; rfl
  · intro _ _; rfl

@[simp] theorem limit_handleLine (s : Server) (now : Instant) (connection : String) (line : List UInt8) :
    (s.handleLine now connection line).1.limit = s.limit := by
  apply handleLine_cases s now connection line (P := fun _ r => r.1.limit = s.limit)
  · intro _; rfl
  · intro _ _; rfl
  · intro _ _; rfl

@[simp] theorem clients_handleLines (s : Server) (now : Instant) (connection : String) (lines : List (List UInt8)) :
    (s.handleLines now connection lines).1.clients = s.clients := by
  induction lines generalizing s with
  | nil => rfl
  | cons line rest ih => rw [handleLines, ih, clients_handleLine]

@[simp] theorem limit_handleLines (s : Server) (now : Instant) (connection : String) (lines : List (List UInt8)) :
    (s.handleLines now connection lines).1.limit = s.limit := by
  induction lines generalizing s with
  | nil => rfl
  | cons line rest ih => rw [handleLines, ih, limit_handleLine]

/-- Draining handles the complete lines first, and then settles the rest. -/
theorem drain_eq (s : Server) (now : Instant) (connection : String) (waiting : List UInt8) :
    s.drain now connection waiting =
      let cut := cutLines s.limit waiting
      let handled := s.handleLines now connection cut.1
      let settled := handled.1.settle now connection cut.2
      (settled.1, handled.2 ++ settled.2) := by
  rw [drain, cutLines]
  cases cut : nextLine s.limit waiting with
  | oversized => simp [handleLines, settle, cut]
  | unfinished =>
    cases found : s.clients.find? connection with
    | none => simp [handleLines, settle, cut, found]
    | some client => simp [handleLines, settle, cut, found]
  | line content rest =>
    have shorter := length_nextLine cut
    simp only [handleLines, List.append_assoc]
    rw [drain_eq _ now connection rest, limit_handleLine]
termination_by waiting.length

/-! ## What happens -/

/-- The messages that lines post, in order. -/
def postedByLines (s : Server) (now : Instant) (connection : String) : List (List UInt8) → List Message
  | [] => []
  | line :: rest =>
    (s.postedByLine? now connection line).toList ++
      (s.handleLine now connection line).1.postedByLines now connection rest

/-- The messages that an incident posts for everybody. -/
def posts (s : Server) (now : Instant) : Incident → List Message
  | .accept _ _ => []
  | .occur connection occurrence => s.postedByLines now connection (s.arrived connection occurrence)

/-- A run from one server to another, with the messages that were posted and what could be seen. -/
inductive Run (start : Server) : List Message → List ServerEvent → Server → Prop
  | nothing : Run start [] [] start
  | step {messages : List Message} {events : List ServerEvent} {s : Server} (earlier : Run start messages events s)
      (now : Instant) (incident : Incident) :
      Run start (messages ++ s.posts now incident) (events ++ (s.meet now incident).2) (s.meet now incident).1

/-- The server after some incidents. -/
def advance (s : Server) (incidents : List (Instant × Incident)) : Server :=
  incidents.foldl (fun s i => (s.meet i.1 i.2).1) s

/-- Any incidents can happen. -/
theorem exists_run (start : Server) (incidents : List (Instant × Incident)) :
    ∃ messages events, Run start messages events (start.advance incidents) := by
  have goOn {messages : List Message} {events : List ServerEvent} {s : Server} (run : Run start messages events s) :
      ∃ messages' events', Run start messages' events' (s.advance incidents) := by
    induction incidents generalizing messages events s with
    | nil => exact ⟨_, _, run⟩
    | cons i rest ih => exact ih (run.step i.1 i.2)
  exact goOn .nothing

/-! ## Moves -/

/-- The kinds of moves that a server makes, each with the messages that it posts and what can be seen. -/
inductive Move (s : Server) : List Message → List ServerEvent → Server → Prop
  | note (line : LogLine) : Move s [] [.logged line] s
  | complain (connection message : String) :
      Move s [] (sendTo s.clients connection (.error message Envelope.plainErrorCode)).2 s
  /-- The hub performs a step for a connection that is open. -/
  | perform (step : Hub.Step) {client : Connection} (isOpen : s.clients.find? step.connection = some client) :
      Move s (s.hub.posted? step).toList (performAll s.clients (s.hub.perform step).effects)
        { s with hub := (s.hub.perform step).hub }
  /-- A connection has more bytes, or breaks. -/
  | change {connection : String} {client : Connection} (isOpen : s.clients.find? connection = some client)
      (client' : Connection) (still : client.broken = true → client'.broken = true) :
      Move s [] [] { s with clients := s.clients.insert connection client' }
  | accept (broken : Bool) :
      Move s []
        (performAll (s.clients.insert s.hub.store.nextId.text ⟨[], broken, false⟩)
          [.caller s.hub.store.nextId.text (.history s.hub.store.history)])
        { s with
          hub := { s.hub with store := s.hub.store.draw }
          clients := s.clients.insert s.hub.store.nextId.text ⟨[], broken, false⟩ }
  | close (now : Instant) {connection : String} {client : Connection}
      (isOpen : s.clients.find? connection = some client) :
      Move s []
        (performAll (s.clients.erase connection) (s.hub.perform ⟨now, connection, .disconnect⟩).effects)
        { s with
          hub := (s.hub.perform ⟨now, connection, .disconnect⟩).hub
          clients := s.clients.erase connection }

/-- Any number of moves, one after the other. -/
inductive Path (start : Server) : List Message → List ServerEvent → Server → Prop
  | nothing : Path start [] [] start
  | move {messages more : List Message} {events seen : List ServerEvent} {s s' : Server}
      (earlier : Path start messages events s) (last : Move s more seen s') :
      Path start (messages ++ more) (events ++ seen) s'

variable {messages messages' : List Message} {events events' : List ServerEvent} {start : Server}

theorem Move.path (move : Move s messages events s') : Path s messages events s' := by
  simpa using Path.nothing.move move

theorem Path.trans (first : Path start messages events s) (second : Path s messages' events' s') :
    Path start (messages ++ messages') (events ++ events') s' := by
  induction second with
  | nothing => simpa using first
  | move _ last ih => simpa using ih.move last

theorem path_note (s : Server) (line : LogLine) : Path s [] [.logged line] s := (Move.note line).path

theorem path_notes (s : Server) (lines : List LogLine) : Path s [] (lines.map .logged) s := by
  induction lines with
  | nil => exact .nothing
  | cons line rest ih => exact (path_note s line).trans ih

theorem path_handleLine {client : Connection} (isOpen : s.clients.find? connection = some client) (now : Instant)
    (line : List UInt8) :
    Path s (s.postedByLine? now connection line).toList (s.handleLine now connection line).2
      (s.handleLine now connection line).1 := by
  apply handleLine_cases s now connection line (P := fun posted r => Path s posted.toList r.2 r.1)
  · intro lines
    exact path_notes s lines
  · intro l message
    exact (path_note s l).trans (Move.complain connection message).path
  · intro l request step
    exact (path_note s l).trans (Move.perform step isOpen).path

theorem path_handleLines {client : Connection} (isOpen : s.clients.find? connection = some client) (now : Instant)
    (lines : List (List UInt8)) :
    Path s (s.postedByLines now connection lines) (s.handleLines now connection lines).2
      (s.handleLines now connection lines).1 := by
  induction lines generalizing s with
  | nil => exact .nothing
  | cons line rest ih =>
    have still : (s.handleLine now connection line).1.clients.find? connection = some client := by
      rw [clients_handleLine, isOpen]
    exact (path_handleLine isOpen now line).trans (ih still)

/-! ## Endings -/

theorem closingNotes_eq (connection : String) (client : Option Connection) :
    ∃ notes : List LogLine, closingNotes connection client = notes.map .logged := by
  cases client with
  | none => exact ⟨[], rfl⟩
  | some client =>
    cases fails : client.closeFails with
    | true => exact ⟨[_], by rw [closingNotes, fails]; rfl⟩
    | false => exact ⟨[], by rw [closingNotes, fails]; rfl⟩

theorem release_eq (s : Server) (now : Instant) (connection : String) :
    s.release now connection =
      ({ s with hub := (s.hub.perform ⟨now, connection, .disconnect⟩).hub },
        performAll s.clients (s.hub.perform ⟨now, connection, .disconnect⟩).effects) := rfl

/-- Closing a connection may be reported as failed; then the hub ends its session. -/
theorem close_eq (s : Server) (now : Instant) (connection : String) :
    ∃ notes : List LogLine, s.close now connection =
      ({ s with
          hub := (s.hub.perform ⟨now, connection, .disconnect⟩).hub
          clients := s.clients.erase connection },
        notes.map .logged ++
          performAll (s.clients.erase connection) (s.hub.perform ⟨now, connection, .disconnect⟩).effects) := by
  obtain ⟨notes, noted⟩ := closingNotes_eq connection (s.clients.find? connection)
  refine ⟨notes, ?_⟩
  rw [← noted]
  rfl

theorem settle_of_oversized {waiting : List UInt8} (cut : nextLine s.limit waiting = .oversized) :
    s.settle now connection waiting = s.refuseLine now connection := by
  rw [settle, cut]

theorem settle_of_fits {client : Connection} (isOpen : s.clients.find? connection = some client)
    {waiting : List UInt8} (fits : nextLine s.limit waiting ≠ .oversized) :
    s.settle now connection waiting =
      ({ s with clients := s.clients.insert connection { client with waiting } }, []) := by
  rw [settle, isOpen]
  split
  · next cut => exact absurd cut fits
  · rfl

theorem path_refusal (s : Server) (connection : String) : Path s [] (refusal s.clients connection) s :=
  (path_note s _).trans (Move.complain connection "Message too large").path

/-- Something happens to an open connection: its complete lines are handled, and then it ends, perhaps after
a last word, or it goes on. -/
theorem occur_cases {client : Connection} (isOpen : s.clients.find? connection = some client) (now : Instant)
    (o : Occurrence) :
    let handled := s.handleLines now connection (s.arrived connection o)
    (∃ word, s.lastWord? connection o = some word ∧ Path handled.1 [] word handled.1 ∧
      s.occur now connection o =
        ((handled.1.close now connection).1, handled.2 ++ (word ++ (handled.1.close now connection).2))) ∨
    (s.lastWord? connection o = none ∧ ∃ client' : Connection, (client.broken = true → client'.broken = true) ∧
      s.occur now connection o =
        ({ handled.1 with clients := handled.1.clients.insert connection client' }, handled.2)) := by
  intro handled
  have still : handled.1.clients.find? connection = some client := by rw [clients_handleLines, isOpen]
  cases o with
  | bytes content =>
    have drained : s.occur now connection (.bytes content) =
        ((handled.1.settle now connection (cutLines s.limit (client.waiting ++ content)).2).1,
          handled.2 ++ (handled.1.settle now connection (cutLines s.limit (client.waiting ++ content)).2).2) := by
      simp only [occur, receive, isOpen, drain_eq, handled, arrived]
    have clients : handled.1.clients = s.clients := clients_handleLines ..
    have limit : handled.1.limit = s.limit := limit_handleLines ..
    simp only [drained, lastWord?, isOpen]
    generalize (cutLines s.limit (client.waiting ++ content)).2 = rest
    cases cut : nextLine s.limit rest with
    | oversized =>
      rw [settle_of_oversized (limit ▸ cut)]
      exact .inl ⟨_, rfl, clients ▸ path_refusal handled.1 connection, by rw [refuseLine, clients]⟩
    | line | unfinished =>
      rw [settle_of_fits still (by rw [limit, cut]; nofun)]
      exact .inr ⟨rfl, { client with waiting := rest }, id, by rw [List.append_nil]⟩
  | endOfFile =>
    refine .inl ⟨[], rfl, .nothing, ?_⟩
    by_cases empty : client.waiting.isEmpty
    · simp [occur, isOpen, empty, handled, arrived, handleLines]
    · simp [occur, isOpen, empty, handled, arrived, handleLines]
  | reset | cancel =>
    have nothing : handled = (s, []) := by simp [handled, arrived, isOpen, handleLines]
    simp only [nothing, occur, isOpen, closeLogged]
    exact .inl ⟨[.logged _], rfl, path_note s _, rfl⟩
  | breakWriting =>
    have nothing : handled = (s, []) := by simp [handled, arrived, isOpen, handleLines]
    simp only [nothing, occur, isOpen]
    exact .inr ⟨rfl, { client with broken := true }, fun _ => rfl, rfl⟩
  | breakClosing =>
    have nothing : handled = (s, []) := by simp [handled, arrived, isOpen, handleLines]
    simp only [nothing, occur, isOpen]
    exact .inr ⟨rfl, { client with closeFails := true }, id, rfl⟩

/-! ## Runs are paths -/

theorem path_close {client : Connection} (isOpen : s.clients.find? connection = some client) (now : Instant) :
    Path s [] (s.close now connection).2 (s.close now connection).1 := by
  obtain ⟨notes, closed⟩ := close_eq s now connection
  rw [closed]
  exact (path_notes s notes).trans (Move.close now isOpen).path

theorem path_meet (s : Server) (now : Instant) (incident : Incident) :
    Path s (s.posts now incident) (s.meet now incident).2 (s.meet now incident).1 := by
  cases incident with
  | accept peer broken => exact (path_note s _).trans (Move.accept broken).path
  | occur connection o =>
    simp only [posts, meet]
    cases isOpen : s.clients.find? connection with
    | none =>
      simp only [occur, arrived, isOpen]
      exact .nothing
    | some client =>
      have handled := path_handleLines isOpen now (s.arrived connection o)
      have still : (s.handleLines now connection (s.arrived connection o)).1.clients.find? connection = some client := by
        rw [clients_handleLines, isOpen]
      rcases occur_cases isOpen now o with ⟨word, -, path, ended⟩ | ⟨-, client', kept, goesOn⟩
      · rw [ended]
        simpa using handled.trans (path.trans (path_close still now))
      · rw [goesOn]
        simpa using handled.trans (Move.change still client' kept).path

theorem Run.path (run : Run start messages events s) : Path start messages events s := by
  induction run with
  | nothing => exact .nothing
  | step _ now incident ih => exact ih.trans (path_meet _ now incident)

end Server

end ChatService
