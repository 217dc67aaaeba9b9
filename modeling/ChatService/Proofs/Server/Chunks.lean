import ChatService.Proofs.Server.Run

/-!
# Bytes in pieces

It makes no difference in how many pieces bytes arrive. The bytes that wait on a connection
are no complete line and not too many for one, so lines are cut at the same places whatever
the pieces are; and what a line does depends on which connections are open and can be written
to, not on the bytes that wait.
-/

namespace ChatService

/-! ## Cutting -/

/-- A line that is complete stays the first one when more bytes arrive. -/
theorem nextLine_append {limit : Nat} {waiting content rest : List UInt8}
    (cut : nextLine limit waiting = .line content rest) (more : List UInt8) :
    nextLine limit (waiting ++ more) = .line content (rest ++ more) := by
  unfold nextLine at cut ⊢
  simp only at cut ⊢
  cases behind : waiting.dropWhile (· != lineFeed) with
  | nil =>
    simp only [behind] at cut
    split at cut
    · cases cut
    · cases cut
  | cons feed tail =>
    have found : (waiting.takeWhile (· != lineFeed)).length ≠ waiting.length := by
      have whole := congrArg List.length (List.takeWhile_append_dropWhile (p := (· != lineFeed)) (l := waiting))
      simp only [behind, List.length_append, List.length_cons] at whole
      omega
    rw [List.dropWhile_append, List.takeWhile_append, behind, if_neg found]
    simp only [behind] at cut
    split at cut
    · cases cut
    · next small =>
      cases cut
      simp [small]

/-- Too many bytes for a line stay too many. -/
theorem nextLine_append_oversized {limit : Nat} {waiting : List UInt8}
    (cut : nextLine limit waiting = .oversized) (more : List UInt8) :
    nextLine limit (waiting ++ more) = .oversized := by
  have large : limit < (waiting.takeWhile (· != lineFeed)).length := by
    unfold nextLine at cut
    simp only at cut
    split at cut
    · split at cut
      · assumption
      · cases cut
    · split at cut
      · assumption
      · cases cut
  have longer : limit < ((waiting ++ more).takeWhile (· != lineFeed)).length := by
    rw [List.takeWhile_append]
    split
    · rw [List.length_append]
      have := (List.takeWhile_sublist (fun b => b != lineFeed) (l := waiting)).length_le
      omega
    · exact large
  unfold nextLine
  simp only [if_pos longer]
  split <;> rfl

namespace Server

variable {s : Server} {now : Instant} {connection : String} {client : Connection}

/-! ## Draining, case by case -/

theorem drain_oversized {waiting : List UInt8} (cut : nextLine s.limit waiting = .oversized) :
    s.drain now connection waiting = s.refuseLine now connection := by
  rw [drain]
  split
  · rfl
  · next other => simp [cut] at other
  · next other => simp [cut] at other

theorem drain_unfinished (isOpen : s.clients.find? connection = some client) {waiting : List UInt8}
    (cut : nextLine s.limit waiting = .unfinished) :
    s.drain now connection waiting =
      ({ s with clients := s.clients.insert connection { client with waiting } }, []) := by
  rw [drain]
  split
  · next other => simp [cut] at other
  · simp only [isOpen]
  · next other => simp [cut] at other

theorem drain_line {waiting content rest : List UInt8} (cut : nextLine s.limit waiting = .line content rest) :
    s.drain now connection waiting =
      let handled := s.handleLine now connection content
      let drained := handled.1.drain now connection rest
      (drained.1, handled.2 ++ drained.2) := by
  rw [drain]
  split
  · next other => simp [cut] at other
  · next other => simp [cut] at other
  · next other =>
    rw [cut] at other
    cases other
    rfl

/-! ## The bytes that wait -/

/-- The server with other bytes that wait on an open connection. -/
def holding (s : Server) (connection : String) (client : Connection) (waiting : List UInt8) : Server :=
  { s with clients := s.clients.insert connection { client with waiting } }

theorem find?_holding (s : Server) (connection : String) (client : Connection) (waiting : List UInt8) :
    (s.holding connection client waiting).clients.find? connection = some { client with waiting } := by
  rw [holding, Table.find?_insert, if_pos rfl]

theorem holding_holding (s : Server) (connection : String) (client : Connection) (waiting more : List UInt8) :
    (s.holding connection client waiting).holding connection client more = s.holding connection client more := by
  simp only [holding, Table.insert_insert]

/-- What is written to a connection does not depend on the bytes that wait. -/
theorem sendTo_holding (isOpen : s.clients.find? connection = some client) (waiting : List UInt8) (c : String)
    (r : Reply) : sendTo (s.holding connection client waiting).clients c r = sendTo s.clients c r := by
  by_cases here : c = connection
  · subst here
    simp only [sendTo, find?_holding, isOpen]
  · simp only [sendTo, holding, Table.find?_insert, if_neg here]

theorem broadcast_holding (isOpen : s.clients.find? connection = some client) (waiting : List UInt8) (r : Reply) :
    broadcast (s.holding connection client waiting).clients r = broadcast s.clients r := by
  have known : connection ∈ s.clients.keys :=
    List.mem_map_of_mem (f := Prod.fst) (Table.mem_entries_iff.2 isOpen)
  have keys : (s.holding connection client waiting).clients.keys = s.clients.keys := by
    rw [holding, Table.keys_insert, if_pos known]
  rw [broadcast, broadcast, keys]
  congr 1
  exact Table.map_insertIn isOpen rfl

theorem performAll_holding (isOpen : s.clients.find? connection = some client) (waiting : List UInt8)
    (effects : List Effect) :
    performAll (s.holding connection client waiting).clients effects = performAll s.clients effects := by
  have each : perform (s.holding connection client waiting).clients = perform s.clients := by
    funext effect
    cases effect with
    | caller c r | «to» c r => simp only [perform, sendTo_holding isOpen]
    | all r => simp only [perform, broadcast_holding isOpen]
    | log | fetched | raised => rfl
  rw [performAll, performAll, each]

/-- What a line does does not depend on the bytes that wait. -/
theorem handleLine_holding (isOpen : s.clients.find? connection = some client) (waiting line : List UInt8) :
    (s.holding connection client waiting).handleLine now connection line =
      ((s.handleLine now connection line).1.holding connection client waiting,
        (s.handleLine now connection line).2) := by
  have written := sendTo_holding isOpen waiting
  have performed := performAll_holding isOpen waiting
  unfold handleLine
  cases Incoming.ofLine line with
  | malformed => simp only [written]
  | unreadable => rfl
  | untyped => rfl
  | message type fields =>
    simp only
    cases Request.ofFields? type fields with
    | none => rfl
    | some request =>
      simp only [performed]
      rfl

/-- A connection that ends takes the bytes along that wait on it. -/
theorem refuseLine_holding (isOpen : s.clients.find? connection = some client) (waiting : List UInt8) :
    (s.holding connection client waiting).refuseLine now connection = s.refuseLine now connection := by
  have written := sendTo_holding isOpen waiting
  have erased : (s.holding connection client waiting).clients.erase connection = s.clients.erase connection :=
    Table.erase_insert _ _ _
  have closed : (s.holding connection client waiting).close now connection = s.close now connection := by
    simp only [close, drop, erased, find?_holding, isOpen]
    rfl
  simp only [refuseLine, refusal, closed, written]

/-- Bytes that are drained replace the ones that waited before. -/
theorem drain_holding {s : Server} (isOpen : s.clients.find? connection = some client) (waiting bytes : List UInt8) :
    (s.holding connection client waiting).drain now connection bytes = s.drain now connection bytes := by
  cases cut : nextLine s.limit bytes with
  | oversized =>
    rw [drain_oversized cut, drain_oversized (s := s.holding connection client waiting) cut,
      refuseLine_holding isOpen]
  | unfinished =>
    rw [drain_unfinished isOpen cut, drain_unfinished (s := s.holding connection client waiting)
      (find?_holding s connection client waiting) cut]
    exact congrArg (·, []) (holding_holding s connection client waiting bytes)
  | line content rest =>
    have shorter := length_nextLine cut
    have still : (s.handleLine now connection content).1.clients.find? connection = some client := by
      rw [clients_handleLine, isOpen]
    rw [drain_line cut, drain_line (s := s.holding connection client waiting) cut, handleLine_holding isOpen]
    simp only [drain_holding still waiting rest]
termination_by bytes.length

/-! ## Pieces -/

theorem find?_refuseLine (s : Server) (now : Instant) (connection : String) :
    (s.refuseLine now connection).1.clients.find? connection = none := by
  simp only [refuseLine, close, drop, release, Table.find?_erase, if_pos]

/-- Bytes can be drained in two goes. -/
theorem drain_append {s : Server} (isOpen : s.clients.find? connection = some client) (bytes more : List UInt8) :
    s.drain now connection (bytes ++ more) =
      let first := s.drain now connection bytes
      let second := first.1.receive now connection more
      (second.1, first.2 ++ second.2) := by
  cases cut : nextLine s.limit bytes with
  | oversized =>
    rw [drain_oversized cut, drain_oversized (nextLine_append_oversized cut more)]
    simp [receive, find?_refuseLine]
  | unfinished =>
    rw [drain_unfinished isOpen cut]
    have here := find?_holding s connection client bytes
    have drained : (s.holding connection client bytes).drain now connection (bytes ++ more) =
        s.drain now connection (bytes ++ more) := drain_holding isOpen bytes (bytes ++ more)
    simp only [holding] at here drained
    simp only [receive, here, drained, List.nil_append]
  | line content rest =>
    have shorter := length_nextLine cut
    have still : (s.handleLine now connection content).1.clients.find? connection = some client := by
      rw [clients_handleLine, isOpen]
    rw [drain_line cut, drain_line (nextLine_append cut more)]
    simp only [drain_append still rest more, List.append_assoc]
termination_by bytes.length

/-- Bytes that arrive in pieces, with nothing else between them. -/
def receiveAll (s : Server) (now : Instant) (connection : String) : List (List UInt8) → Server × List ServerEvent
  | [] => (s, [])
  | piece :: pieces =>
    let first := s.occur now connection (.bytes piece)
    let others := first.1.receiveAll now connection pieces
    (others.1, first.2 ++ others.2)

theorem occur_bytes (s : Server) (now : Instant) (connection : String) (bytes : List UInt8) :
    s.occur now connection (.bytes bytes) = s.receive now connection bytes := by
  cases found : s.clients.find? connection with
  | none => simp only [occur, receive, found]
  | some client => simp only [occur, found]

theorem receive_of_open (isOpen : s.clients.find? connection = some client) (bytes : List UInt8) :
    s.receive now connection bytes = s.drain now connection (client.waiting ++ bytes) := by
  simp only [receive, isOpen]

theorem receive_of_closed (closed : s.clients.find? connection = none) (bytes : List UInt8) :
    s.receive now connection bytes = (s, []) := by
  simp only [receive, closed]

/-- Two pieces have the effect of one. -/
theorem receive_append (s : Server) (now : Instant) (connection : String) (bytes more : List UInt8) :
    s.receive now connection (bytes ++ more) =
      let first := s.receive now connection bytes
      let second := first.1.receive now connection more
      (second.1, first.2 ++ second.2) := by
  cases found : s.clients.find? connection with
  | none => simp [receive_of_closed found]
  | some client =>
    rw [receive_of_open found, receive_of_open found, ← List.append_assoc]
    exact drain_append found _ more

theorem receiveAll_cons (s : Server) (now : Instant) (connection : String) (piece : List UInt8)
    (pieces : List (List UInt8)) :
    s.receiveAll now connection (piece :: pieces) = s.receive now connection (piece ++ pieces.flatten) := by
  induction pieces generalizing s piece with
  | nil => simp [receiveAll, occur_bytes]
  | cons next pieces ih =>
    rw [receiveAll, ih, List.flatten_cons, receive_append _ _ _ piece, occur_bytes]

/-! ## What waits in a run -/

/-- The bytes that wait on the connections are no complete lines, and not too many for one. -/
def Unfinished (s : Server) : Prop :=
  ∀ connection client, s.clients.find? connection = some client → nextLine s.limit client.waiting = .unfinished

/-- The bytes that wait are the same as before, or no complete line. -/
theorem Unfinished.of_clients {s' : Server} (unfinished : Unfinished s) (limit : s'.limit = s.limit)
    (each : ∀ c client, s'.clients.find? c = some client →
      s.clients.find? c = some client ∨ nextLine s.limit client.waiting = .unfinished) : Unfinished s' := by
  intro c client found
  rw [limit]
  rcases each c client found with before | new
  · exact unfinished c client before
  · exact new

theorem Unfinished.insert (unfinished : Unfinished s) (hub : Hub) {connection : String} {client : Connection}
    (new : nextLine s.limit client.waiting = .unfinished) :
    Unfinished { s with hub, clients := s.clients.insert connection client } := by
  refine unfinished.of_clients rfl fun c client' found => ?_
  rw [Table.find?_insert] at found
  split at found
  · cases found
    exact .inr new
  · exact .inl found

theorem Unfinished.close (unfinished : Unfinished s) (now : Instant) (connection : String) :
    Unfinished (s.close now connection).1 := by
  obtain ⟨notes, closed⟩ := close_eq s now connection
  rw [closed]
  refine unfinished.of_clients rfl fun c client found => ?_
  exact .inl (Table.find?_of_find?_erase found)

theorem Unfinished.handleLine (unfinished : Unfinished s) (now : Instant) (connection : String) (line : List UInt8) :
    Unfinished (s.handleLine now connection line).1 :=
  unfinished.of_clients (limit_handleLine s now connection line) fun c client found =>
    .inl (by rwa [clients_handleLine] at found)

theorem Unfinished.drain {s : Server} (unfinished : Unfinished s) (now : Instant)
    (isOpen : s.clients.find? connection = some client) (bytes : List UInt8) :
    Unfinished (s.drain now connection bytes).1 := by
  cases cut : nextLine s.limit bytes with
  | oversized =>
    rw [drain_oversized cut]
    exact unfinished.close now connection
  | unfinished =>
    rw [drain_unfinished isOpen cut]
    exact unfinished.insert s.hub cut
  | line content rest =>
    have shorter := length_nextLine cut
    have still : (s.handleLine now connection content).1.clients.find? connection = some client := by
      rw [clients_handleLine, isOpen]
    rw [drain_line cut]
    exact (unfinished.handleLine now connection content).drain now still rest
termination_by bytes.length

theorem Unfinished.meet (unfinished : Unfinished s) (now : Instant) (incident : Incident) :
    Unfinished (s.meet now incident).1 := by
  cases incident with
  | accept peer broken => exact unfinished.insert _ (by simp [nextLine])
  | occur connection occurrence =>
    cases found : s.clients.find? connection with
    | none => simpa only [Server.meet, occur, found] using unfinished
    | some client =>
      cases occurrence with
      | bytes content =>
        simp only [Server.meet, occur, receive, found]
        exact unfinished.drain now found _
      | endOfFile =>
        simp only [Server.meet, occur, found]
        split
        · exact unfinished.close now connection
        · exact (unfinished.handleLine now connection client.waiting).close now connection
      | reset | cancel =>
        simp only [Server.meet, occur, found]
        exact unfinished.close now connection
      | breakWriting | breakClosing =>
        simp only [Server.meet, occur, found]
        exact unfinished.insert s.hub (unfinished connection client found)

variable {messages : List Message} {events : List ServerEvent}

theorem Run.unfinished {hub : Hub} {limit : Nat} (run : Run (create hub limit) messages events s) : Unfinished s := by
  induction run with
  | nothing =>
    intro connection client found
    cases found
  | step _ now incident ih => exact ih.meet now incident

/-- In every server that a run reaches, bytes for an open connection can arrive in any number of pieces, cut
anywhere, empty ones among them. The server is the same afterwards as if they had arrived at once, with its
store, its sessions, its connections and the bytes that wait on them; and the same could be seen, in the same
order. When a line is too large, what was complete before it is handled, the connection ends, and nothing of
that line or behind it is handled. -/
theorem pieces_make_no_difference {hub : Hub} {limit : Nat} (run : Run (create hub limit) messages events s)
    (isOpen : s.clients.find? connection = some client) (now : Instant) (pieces : List (List UInt8)) :
    s.receiveAll now connection pieces = s.occur now connection (.bytes pieces.flatten) ∧
    let cut := cutLines s.limit (client.waiting ++ pieces.flatten)
    nextLine s.limit cut.2 = .oversized →
      let handled := s.handleLines now connection cut.1
      let ended := handled.1.refuseLine now connection
      s.receiveAll now connection pieces = (ended.1, handled.2 ++ ended.2) ∧
        ended.1.clients.find? connection = none := by
  have whole : s.receiveAll now connection pieces = s.occur now connection (.bytes pieces.flatten) := by
    cases pieces with
    | nil =>
      have waits := run.unfinished connection client isOpen
      rw [occur_bytes, receive_of_open isOpen, List.flatten_nil, List.append_nil, drain_unfinished isOpen waits,
        Table.insert_of_find? isOpen]
      rfl
    | cons piece pieces => rw [receiveAll_cons, occur_bytes, List.flatten_cons]
  refine ⟨whole, fun large => ?_⟩
  rw [whole, occur_bytes, receive_of_open isOpen, drain_eq]
  simp only [settle, limit_handleLines, large, true_and]
  exact find?_refuseLine ..

/-- A registration that is cut in two, with a line behind it that is too large. -/
private def cutRegistration : List (List UInt8) :=
  let line := (Request.register "alice" "a@x" "secret").line
  [line.take 7, [], line.drop 7 ++ List.replicate 101 120 ++ line]

theorem pieces_make_no_difference_of_cut_line :
    let s := (create (.create (.empty .plain 5 5) (.empty 60 Instant.uptime) ⟨[], []⟩ .default) 100).advance
      [(⟨1⟩, .accept "here" false)]
    let after := s.receiveAll ⟨2⟩ (Id.ofNumber 1).text cutRegistration
    s.clients.find? (Id.ofNumber 1).text = some ⟨[], false, false⟩ ∧
      after.1.clients.find? (Id.ofNumber 1).text = none ∧
      after.1.hub.store.byUsername.find? "alice" = some (Id.ofNumber 2) := by
  intro s after
  obtain ⟨messages, events, run⟩ :=
    exists_run (create (.create (.empty .plain 5 5) (.empty 60 Instant.uptime) ⟨[], []⟩ .default) 100)
      [(⟨1⟩, .accept "here" false)]
  have isOpen : s.clients.find? (Id.ofNumber 1).text = some ⟨[], false, false⟩ := by decide +kernel
  obtain ⟨atOnce, stops⟩ := pieces_make_no_difference run isOpen ⟨2⟩ cutRegistration
  obtain ⟨stopped, closed⟩ := stops (by decide +kernel)
  refine ⟨isOpen, ?_, ?_⟩
  · rw [← closed]
    exact congrArg (fun r => r.1.clients.find? (Id.ofNumber 1).text) stopped
  · calc after.1.hub.store.byUsername.find? "alice"
      _ = (s.occur ⟨2⟩ (Id.ofNumber 1).text (.bytes cutRegistration.flatten)).1.hub.store.byUsername.find? "alice" :=
        congrArg (fun r => r.1.hub.store.byUsername.find? "alice") atOnce
      _ = some (Id.ofNumber 2) := by decide +kernel

end Server

end ChatService
