import ChatService.Proofs.Server.Sessions
import ChatService.Server.Ongoing

/-!
# Interrupted work

A session ends with its connection, however that ends, unless the work on it is broken off
at one of two places. A dropped connection that is cancelled while it waits to be closed
keeps its session, and a thread that logs in a connection that was cancelled and has ended
since gives it one. Such a session is stray: its account is online with nobody there, and
nothing ends that but a login elsewhere. There is no other way to a stray session.
-/

namespace ChatService

namespace Server

variable {s s' start : Server} {messages : List Message} {events : List ServerEvent} {connection : String}

/-! ## Closed connections -/

/-- A connection that has ended is not opened again. -/
theorem Move.closed (move : Move s messages events s') (known : s.Known connection)
    (closed : s.clients.find? connection = none) : s'.clients.find? connection = none := by
  cases move with
  | note | complain | perform => exact closed
  | @change place client isOpen =>
    have other : connection ≠ place := by
      rintro rfl
      cases closed.symm.trans isOpen
    rw [Table.find?_insert, if_neg other, closed]
  | accept =>
    have other : connection ≠ s.hub.store.nextId.text := by
      rintro rfl
      exact not_known_nextId s known
    rw [Table.find?_insert, if_neg other, closed]
  | close => rw [Table.find?_erase, closed, ite_self]

/-- A closed connection gets no session. -/
theorem Move.session_of_closed (identified : Identified s) (move : Move s messages events s') {id : Id}
    (closed : s.clients.find? connection = none) (session : s'.hub.store.sessions.find? connection = some id) :
    s.hub.store.sessions.find? connection = some id := by
  have performed (step : Hub.Step) {client : Connection} (isOpen : s.clients.find? step.connection = some client)
      (session : (s.hub.perform step).hub.store.sessions.find? connection = some id) :
      s.hub.store.sessions.find? connection = some id := by
    rcases Hub.sessions_perform identified.consistent step session with rfl | before
    · cases closed.symm.trans isOpen
    · exact before
  cases move with
  | note | complain | change | accept => exact session
  | perform step isOpen => exact performed step isOpen session
  | @close now place client isOpen => exact performed ⟨now, place, .disconnect⟩ isOpen session

/-- A connection that ends takes its session along. -/
theorem Move.closed_of_session (identified : Identified s) (move : Move s messages events s') {id : Id}
    (closed : s'.clients.find? connection = none) (session : s'.hub.store.sessions.find? connection = some id) :
    s.clients.find? connection = none := by
  cases move with
  | note | complain | perform => exact closed
  | change | accept =>
    rw [Table.find?_insert] at closed
    split at closed
    · cases closed
    · exact closed
  | close =>
    rw [Hub.store_perform_disconnect, Store.sessions_disconnect identified.consistent.toLinked] at session
    rwa [Table.find?_erase, if_neg (Option.ite_none_left_eq_some.1 session).1] at closed

/-- A session on a connection that is not open. -/
def Unserved (s : Server) (connection : String) : Prop :=
  s.clients.find? connection = none ∧ ∃ id, s.hub.store.sessions.find? connection = some id

theorem Path.closed (path : Path start messages events s) (known : start.Known connection)
    (closed : start.clients.find? connection = none) : s.clients.find? connection = none := by
  induction path with
  | nothing => exact closed
  | move earlier last ih => exact last.closed (known.path earlier) ih

/-- Work on open connections leaves no session without its connection behind, and ends such a session at most. -/
theorem Path.unserved_iff (identified : Identified start) (path : Path start messages events s) :
    s.Unserved connection ↔
      start.Unserved connection ∧ ∃ id, s.hub.store.sessions.find? connection = some id := by
  induction path with
  | nothing => exact ⟨fun unserved => ⟨unserved, unserved.2⟩, And.left⟩
  | move earlier last ih =>
    have identifiedThen := identified.path earlier
    constructor
    · rintro ⟨closed, id, session⟩
      have closedThen := last.closed_of_session identifiedThen closed session
      have sessionThen := last.session_of_closed identifiedThen closedThen session
      exact ⟨(ih.1 ⟨closedThen, id, sessionThen⟩).1, id, session⟩
    · rintro ⟨unserved, id, session⟩
      obtain ⟨before, bound⟩ := unserved.2
      have known := identified.known bound
      have closedThen := earlier.closed known unserved.1
      exact ⟨last.closed (known.path earlier) closedThen, id, session⟩

end Server

namespace Ongoing

open Server (Path Identified Incident Occurrence)

variable {w : Ongoing} {s : Server} {messages : List Message} {events : List ServerEvent} {now : Instant}
  {connection c : String} {client : Connection}

/-! ## Stray sessions -/

/-- A session that nothing is going to end: its connection is not open and does not wait to be closed. -/
def Stray (w : Ongoing) (connection : String) : Prop :=
  w.server.Unserved connection ∧ w.leaving.find? connection = none

/-- The steps that leave the session of a connection behind. -/
inductive Abandons (w : Ongoing) (now : Instant) (connection : String) : Act → Prop
  /-- The connection is cancelled while it waits to be closed and has a session. -/
  | waiting {client : Connection} {id : Id} (leaving : w.leaving.find? connection = some client)
      (session : w.server.hub.store.sessions.find? connection = some id) :
      Abandons w now connection (.abandon connection)
  /-- The connection was cancelled while a thread worked on its login, and has ended before the thread succeeds. -/
  | thread {place : Nat} {username password : Text} {u : User} {store : Store}
      (asked : w.detached[place]? = some (connection, .login username password))
      (closed : w.server.clients.find? connection = none) (left : w.leaving.find? connection = none)
      (loggedIn : w.server.hub.store.login now (some username) (some password) connection = .ok (u, store)) :
      Abandons w now connection (.carry place)

/-! ## The invariant -/

/-- Connections that wait to be closed, and those that threads work for, were open before. -/
structure Sound (w : Ongoing) : Prop where
  identified : Identified w.server
  dropped {connection : String} {client : Connection} : w.leaving.find? connection = some client →
    w.server.clients.find? connection = none
  leaving {connection : String} {client : Connection} : w.leaving.find? connection = some client →
    w.server.Known connection
  detached {connection : String} {request : Request} : (connection, request) ∈ w.detached →
    w.server.Known connection

theorem sound_idle (identified : Identified s) : Sound (idle s) where
  identified := identified
  dropped waits := by cases waits
  leaving waits := by cases waits
  detached asked := by cases asked

theorem Sound.of_path (sound : Sound w) (path : Path w.server messages events s) : Sound { w with server := s } where
  identified := sound.identified.path path
  dropped waits := path.closed (sound.leaving waits) (sound.dropped waits)
  leaving waits := (sound.leaving waits).path path
  detached asked := (sound.detached asked).path path

theorem Sound.dismiss (sound : Sound w) (isOpen : w.server.clients.find? connection = some client)
    (client' : Connection) : Sound (w.dismiss connection client') where
  identified := sound.identified.drop connection
  dropped waits := by
    rw [Ongoing.dismiss, Table.find?_insert] at waits
    rw [Ongoing.dismiss, Server.drop, Table.find?_erase]
    split at waits
    · next here => rw [if_pos here]
    · next other => rw [if_neg other, sound.dropped waits]
  leaving waits := by
    rw [Ongoing.dismiss, Table.find?_insert] at waits
    split at waits
    · next here =>
      rw [here]
      exact sound.identified.drawn isOpen
    · exact sound.leaving waits
  detached asked := sound.detached asked

theorem Sound.detach (sound : Sound w) (isOpen : w.server.clients.find? connection = some client)
    (requests : List Request) : Sound { w with detached := w.detached ++ requests.map (connection, ·) } where
  identified := sound.identified
  dropped := sound.dropped
  leaving := sound.leaving
  detached asked := by
    rcases List.mem_append.1 asked with before | new
    · exact sound.detached before
    · obtain ⟨request, -, same⟩ := List.mem_map.1 new
      cases same
      exact sound.identified.drawn isOpen

/-- The hub does something for a connection that is known, and others stop waiting. -/
theorem Sound.perform (sound : Sound w) (step : Hub.Step) (known : w.server.Known step.connection)
    {leaving : Table String Connection} {detached : List (String × Request)}
    (waited : ∀ c client, leaving.find? c = some client → w.leaving.find? c = some client)
    (wanted : ∀ asked ∈ detached, asked ∈ w.detached) :
    Sound ⟨{ w.server with hub := (w.server.hub.perform step).hub }, leaving, detached⟩ := by
  have still {c : String} (known : w.server.Known c) :
      Server.Known { w.server with hub := (w.server.hub.perform step).hub } c :=
    known.imp fun id drawn => drawn.imp_left (Hub.drawn_perform _ step)
  exact {
    identified := sound.identified.perform step known
    dropped := fun waits => sound.dropped (waited _ _ waits)
    leaving := fun waits => still (sound.leaving (waited _ _ waits))
    detached := fun asked => still (sound.detached (wanted _ asked)) }

/-! ## What a step can do -/

/-- What a step can lead to. -/
inductive Acted (w : Ongoing) (now : Instant) (act : Act) : Ongoing → Prop
  | nothing (calm : ∀ c, ¬Abandons w now c act) : Acted w now act w
  | met {incident : Incident} (is : act = .meet incident) :
      Acted w now act { w with server := (w.server.meet now incident).1 }
  /-- An open connection is worked for and then dropped; perhaps a thread goes on. -/
  | dropped {messages : List Message} {events : List ServerEvent} {s : Server} {connection : String}
      {client : Connection} (asked : List Request) (calm : ∀ c, ¬Abandons w now c act)
      (path : Path w.server messages events s) (same : s.clients = w.server.clients)
      (isOpen : w.server.clients.find? connection = some client) :
      Acted w now act
        ({ w with server := s, detached := w.detached ++ asked.map (connection, ·) }.dismiss connection client)
  | finished {connection : String} {client : Connection} (calm : ∀ c, ¬Abandons w now c act)
      (waits : w.leaving.find? connection = some client) :
      Acted w now act
        { w with server := (w.server.release now connection).1, leaving := w.leaving.erase connection }
  | abandoned {connection : String} (is : act = .abandon connection) :
      Acted w now act { w with leaving := w.leaving.erase connection }
  | carried {place : Nat} {connection : String} {request : Request} (is : act = .carry place)
      (asked : w.detached[place]? = some (connection, request)) :
      Acted w now act
        { w with
          server :=
            { w.server with hub := (w.server.hub.perform ⟨now, connection, .ofRequest request⟩).hub }
          detached := w.detached.eraseIdx place }

theorem acted_leave (w : Ongoing) (now : Instant) (connection : String) (occurrence : Occurrence) :
    Acted w now (.leave connection occurrence) (w.leave now connection occurrence).1 := by
  have calm (c : String) : ¬Abandons w now c (.leave connection occurrence) := by nofun
  unfold leave
  split
  · next client word isOpen said =>
    have path := Server.path_handleLines isOpen now (w.server.arrived connection occurrence)
    simpa using Acted.dropped [] calm path (Server.clients_handleLines ..) isOpen
  · exact .nothing calm

theorem acted_strike (w : Ongoing) (now : Instant) (connection : String) (occurrence : Occurrence) (point : Point) :
    Acted w now (.strike connection occurrence point) (w.strike now connection occurrence point).1 := by
  have calm (c : String) : ¬Abandons w now c (.strike connection occurrence point) := by nofun
  unfold strike
  split
  · next client line isOpen brings =>
    cases point with
    | writing shown =>
      have path := Server.path_handleLine isOpen now line
      simpa [strikeLine] using Acted.dropped [] calm path (Server.clients_handleLine ..) isOpen
    | waiting =>
      rw [strikeLine]
      cases Request.ofLine? line with
      | none => exact .nothing calm
      | some request =>
        dsimp only
        split
        · exact .dropped [request] calm .nothing rfl isOpen
        · split
          · simpa using Acted.dropped [] calm .nothing rfl isOpen
          · exact .nothing calm
  · exact .nothing calm

theorem acted_finish (w : Ongoing) (now : Instant) {act : Act} (calm : ∀ c, ¬Abandons w now c act)
    (connection : String) : Acted w now act (w.finish now connection).1 := by
  unfold finish
  split
  · exact .nothing calm
  · next client waits => exact .finished calm waits

theorem acted_act (w : Ongoing) (now : Instant) (act : Act) : Acted w now act (w.act now act).1 := by
  cases act with
  | meet incident => exact .met rfl
  | leave connection occurrence => exact acted_leave w now connection occurrence
  | strike connection occurrence point => exact acted_strike w now connection occurrence point
  | finish connection | cut connection shown => exact acted_finish w now (by nofun) connection
  | abandon connection => exact .abandoned rfl
  | carry place =>
    rw [act, carry]
    split
    · next nobody =>
      refine .nothing fun c abandons => ?_
      cases abandons with
      | thread asked => cases nobody.symm.trans asked
    · next connection request asked =>
      rw [Hub.answer_eq_perform]
      exact .carried rfl asked

/-! ## What steps do to stray sessions -/

theorem stray_iff_of_path (sound : Sound w) (path : Path w.server messages events s)
    (detached : List (String × Request)) :
    Stray { w with server := s, detached } c ↔ Stray w c ∧ ∃ id, s.hub.store.sessions.find? c = some id := by
  rw [Stray, path.unserved_iff sound.identified, Stray]
  exact and_right_comm

/-- A connection that is dropped is waited for, so its session is not stray. -/
theorem stray_dismiss_iff (isOpen : w.server.clients.find? connection = some client) (client' : Connection) :
    Stray (w.dismiss connection client') c ↔ Stray w c := by
  simp only [Stray, Ongoing.dismiss, Server.drop, Server.Unserved, Table.find?_insert, Table.find?_erase]
  by_cases here : c = connection
  · subst here
    simp [isOpen]
  · simp only [if_neg here]

theorem sessions_release (identified : Identified s) (now : Instant) (connection c : String) :
    (s.release now connection).1.hub.store.sessions.find? c =
      if c = connection then none else s.hub.store.sessions.find? c := by
  rw [Server.release_eq, Hub.store_perform_disconnect, Store.sessions_disconnect identified.consistent.toLinked]

/-- The end of a connection ends its session and no other, so it makes none stray. -/
theorem stray_finish_iff (sound : Sound w) (connection : String) :
    let done := { w with server := (w.server.release now connection).1, leaving := w.leaving.erase connection }
    Stray done c ↔ Stray w c ∧ ∃ id, done.server.hub.store.sessions.find? c = some id := by
  simp only [Stray, Server.Unserved, sessions_release sound.identified, Table.find?_erase]
  by_cases here : c = connection
  · simp [here]
  · simp only [if_neg here, Server.release_eq]
    exact ⟨fun stray => ⟨stray, stray.1.2⟩, And.left⟩

/-- A session becomes stray when its connection is waited for no more. -/
theorem stray_abandon_iff (sound : Sound w) :
    Stray { w with leaving := w.leaving.erase connection } c ↔
      Abandons w now c (.abandon connection) ∨ Stray w c := by
  constructor
  · rintro ⟨unserved, left⟩
    rw [Table.find?_erase] at left
    cases waits : w.leaving.find? c with
    | none => exact .inr ⟨unserved, waits⟩
    | some client =>
      have here : c = connection := by
        by_contra other
        rw [if_neg other, waits] at left
        cases left
      subst here
      obtain ⟨id, session⟩ := unserved.2
      exact .inl (.waiting waits session)
  · rintro (abandons | stray)
    · cases abandons with
      | waiting waits session => exact ⟨⟨sound.dropped waits, _, session⟩, by rw [Table.find?_erase, if_pos rfl]⟩
    · exact ⟨stray.1, by rw [Table.find?_erase, stray.2, ite_self]⟩

/-- A session becomes stray when a thread opens it on a connection that has ended. -/
theorem stray_carry_iff (sound : Sound w) {place : Nat} {request : Request}
    (asked : w.detached[place]? = some (connection, request)) (detached : List (String × Request)) :
    let done : Ongoing :=
      { w with
        server := { w.server with hub := (w.server.hub.perform ⟨now, connection, .ofRequest request⟩).hub }, detached }
    Stray done c ↔
      Abandons w now c (.carry place) ∨ Stray w c ∧ ∃ id, done.server.hub.store.sessions.find? c = some id := by
  intro done
  have consistent := sound.identified.consistent
  constructor
  · rintro ⟨⟨closed, id, session⟩, left⟩
    rcases Hub.session_opened consistent _ session with ⟨rfl, username, password, u, store, is, ok⟩ | before
    · cases request with
      | login name word =>
        cases is
        exact .inl (.thread asked closed left ok)
      | _ => cases is
    · exact .inr ⟨⟨⟨closed, id, before⟩, left⟩, id, session⟩
  · rintro (abandons | ⟨stray, session⟩)
    · cases abandons with
      | @thread _ _ _ u _ asked' closed left ok =>
        cases asked.symm.trans asked'
        refine ⟨⟨closed, u.id, ?_⟩, left⟩
        show (w.server.hub.perform _).hub.store.sessions.find? _ = some u.id
        rw [Hub.Operation.ofRequest, Hub.store_perform_login ok, Store.login_sessions consistent ok, if_pos rfl]
    · exact ⟨⟨stray.1.1, session⟩, stray.2⟩

/-- Exactly the steps that abandon a session leave it stray. No other step makes a session stray, and none but the end
of a stray session stops it from being so. -/
theorem Acted.stray_iff {act : Act} {w' : Ongoing} (sound : Sound w) (acted : Acted w now act w') :
    Stray w' c ↔
      Abandons w now c act ∨ Stray w c ∧ ∃ id, w'.server.hub.store.sessions.find? c = some id := by
  cases acted with
  | nothing calm =>
    rw [or_iff_right (calm c)]
    exact ⟨fun stray => ⟨stray, stray.1.2⟩, And.left⟩
  | met is =>
    subst is
    rw [or_iff_right nofun]
    exact stray_iff_of_path sound (Server.path_meet ..) w.detached
  | dropped _ calm path same isOpen =>
    rw [or_iff_right (calm c), stray_dismiss_iff (same ▸ isOpen)]
    exact stray_iff_of_path sound path _
  | finished calm waits =>
    rw [or_iff_right (calm c)]
    exact stray_finish_iff sound _
  | abandoned is =>
    subst is
    rw [stray_abandon_iff sound]
    exact or_congr_right ⟨fun stray => ⟨stray, stray.1.2⟩, And.left⟩
  | carried is asked =>
    subst is
    exact stray_carry_iff sound asked _

theorem Acted.sound {act : Act} {w' : Ongoing} (sound : Sound w) (acted : Acted w now act w') : Sound w' := by
  cases acted with
  | nothing => exact sound
  | met => exact sound.of_path (Server.path_meet ..)
  | @dropped _ _ _ _ _ asked _ path same isOpen =>
    have still := same ▸ isOpen
    exact ((sound.of_path path).detach still asked).dismiss still _
  | @finished connection client calm waits =>
    exact sound.perform ⟨now, connection, .disconnect⟩ (sound.leaving waits)
      (fun _ _ waits => Table.find?_of_find?_erase waits) fun _ asked => asked
  | @abandoned connection is =>
    exact {
      identified := sound.identified
      dropped := fun waits => sound.dropped (Table.find?_of_find?_erase waits)
      leaving := fun waits => sound.leaving (Table.find?_of_find?_erase waits)
      detached := sound.detached }
  | @carried place connection request is asked =>
    have known := sound.detached (List.mem_of_getElem? asked)
    exact sound.perform _ known (fun _ _ waits => waits) fun _ wanted => List.mem_of_mem_eraseIdx wanted

/-! ## Runs -/

theorem after_append (w : Ongoing) (acts more : List (Instant × Act)) :
    w.after (acts ++ more) = (w.after acts).after more := List.foldl_append

theorem after_take_succ {acts : List (Instant × Act)} {k : Nat} {a : Instant × Act} (next : acts[k]? = some a) :
    w.after (acts.take (k + 1)) = ((w.after (acts.take k)).act a.1 a.2).1 := by
  rw [List.take_add_one, next, after_append]
  rfl

theorem Sound.after (sound : Sound w) (acts : List (Instant × Act)) : Sound (w.after acts) := by
  induction acts generalizing w with
  | nil => exact sound
  | cons a rest ih => exact ih ((acted_act w a.1 a.2).sound sound)

/-- A run in which nothing is stray at the start keeps clear of stray sessions exactly if no step abandons one. -/
theorem no_stray_iff (sound : Sound w) (clear : ∀ c, ¬Stray w c) (acts : List (Instant × Act)) :
    (∀ k c, ¬Stray (w.after (acts.take k)) c) ↔
      ∀ k a, acts[k]? = some a → ∀ c, ¬Abandons (w.after (acts.take k)) a.1 c a.2 := by
  have step {k : Nat} {a : Instant × Act} (next : acts[k]? = some a) (c : String) :=
    (acted_act (w.after (acts.take k)) a.1 a.2).stray_iff (c := c) (sound.after _)
  constructor
  · intro never k a next c abandons
    refine never (k + 1) c ?_
    rw [after_take_succ next]
    exact (step next c).2 (.inl abandons)
  · intro never k c
    induction k with
    | zero => exact clear c
    | succ k ih =>
      cases next : acts[k]? with
      | none => rwa [List.take_add_one, next, Option.toList_none, List.append_nil]
      | some a =>
        rw [after_take_succ next, step next c]
        rintro (abandons | ⟨stray, -⟩)
        · exact never k a next c abandons
        · exact ih stray

/-! ## How connections end -/

/-- An incident that ends a connection is its departure and then its closing. -/
theorem meet_eq_leave_finish (sound : Sound w) (now : Instant)
    (isOpen : w.server.clients.find? connection = some client) {occurrence : Occurrence} {word : List ServerEvent}
    (said : w.server.lastWord? connection occurrence = some word) :
    let left := w.act now (.leave connection occurrence)
    let done := left.1.act now (.finish connection)
    w.act now (.meet (.occur connection occurrence)) = (done.1, left.2 ++ done.2) := by
  have never : w.leaving.find? connection = none := by
    rw [Option.eq_none_iff_forall_ne_some]
    intro client waits
    cases isOpen.symm.trans (sound.dropped waits)
  have still := isOpen
  rw [← Server.clients_handleLines w.server now connection (w.server.arrived connection occurrence)] at still
  rcases Server.occur_cases isOpen now occurrence with ⟨word', said', -, ended⟩ | ⟨goesOn, -⟩
  · cases said.symm.trans said'
    simp only [act, leave, isOpen, said, finish, Ongoing.dismiss, Table.find?_insert, if_pos, Server.meet, ended,
      Table.erase_insert, Table.erase_of_new never, Server.close, still, List.append_assoc]
  · cases said.symm.trans goesOn

/-- What is met to its end closes a connection only by ending it. -/
theorem ends_of_meet {s : Server} {incident : Incident} (isOpen : s.clients.find? c = some client)
    (ended : (s.meet now incident).1.clients.find? c = none) :
    ∃ occurrence word, incident = .occur c occurrence ∧ s.lastWord? c occurrence = some word := by
  cases incident with
  | accept peer broken =>
    rw [show (s.meet now (.accept peer broken)).1.clients = s.clients.insert _ _ from rfl, Table.find?_insert,
      isOpen] at ended
    split at ended <;> cases ended
  | occur connection occurrence =>
    rw [Server.meet] at ended
    cases found : s.clients.find? connection with
    | none =>
      rw [Server.occur, found, isOpen] at ended
      cases ended
    | some client' =>
      rcases Server.occur_cases found now occurrence with ⟨word, said, -, closed⟩ | ⟨-, client', -, goesOn⟩
      · obtain ⟨notes, close⟩ := Server.close_eq
          (s.handleLines now connection (s.arrived connection occurrence)).1 now connection
        rw [closed, close, Server.clients_handleLines, Table.find?_erase, isOpen] at ended
        split at ended
        · next here => exact ⟨occurrence, word, here ▸ rfl, here ▸ said⟩
        · cases ended
      · rw [goesOn, Server.clients_handleLines, Table.find?_insert, isOpen] at ended
        split at ended <;> cases ended

/-- A connection that is no longer open waits to be closed, or has been met to its end. -/
theorem Acted.waits_or_met {act : Act} {w' : Ongoing} (acted : Acted w now act w')
    (isOpen : w.server.clients.find? c = some client) (ended : w'.server.clients.find? c = none) :
    (∃ client, w'.leaving.find? c = some client) ∨
      ∃ occurrence word, act = .meet (.occur c occurrence) ∧ w.server.lastWord? c occurrence = some word := by
  cases acted with
  | nothing | finished | abandoned | carried => cases isOpen.symm.trans ended
  | met is =>
    obtain ⟨occurrence, word, rfl, said⟩ := ends_of_meet isOpen ended
    exact .inr ⟨occurrence, word, is, said⟩
  | @dropped _ _ s connection client' _ _ _ same _ =>
    have here : c = connection := by
      by_contra other
      rw [Ongoing.dismiss, Server.drop, Table.find?_erase, if_neg other, same, isOpen] at ended
      cases ended
    exact .inl ⟨client', by rw [Ongoing.dismiss, Table.find?_insert, if_pos here]⟩

/-- The end of a connection that waits to be closed. -/
theorem finish_session (sound : Sound w) (now : Instant) (waits : w.leaving.find? connection = some client) :
    let done := w.act now (.finish connection)
    done.1.leaving.find? connection = none ∧ done.1.server.hub.store.session? connection = none ∧
      (∀ u, w.server.hub.store.session? connection = some u → u.username ∉ done.1.server.hub.store.online ∧
        ∀ other client, done.1.server.clients.find? other = some client → client.broken = false →
          .sent other (.onlineUsers done.1.server.hub.store.online) ∈ done.2) ∧
      ∀ other u, other ≠ connection → w.server.hub.store.session? other = some u →
        done.1.server.hub.store.session? other = some u ∧ u.username ∈ done.1.server.hub.store.online := by
  intro done
  have finished : done =
      ({ w with server := (w.server.release now connection).1, leaving := w.leaving.erase connection },
        Server.closingNotes connection (some client) ++ (w.server.release now connection).2) := by
    simp only [done, act, finish, waits]
  have soundThen : Sound done.1 := (acted_act w now (.finish connection)).sound sound
  obtain ⟨own, others⟩ := Server.release_session sound.identified now connection
  simp only [finished] at soundThen ⊢
  refine ⟨by rw [Table.find?_erase, if_pos rfl], ?_, fun u session => ?_, fun other u ne session => ?_⟩
  · have gone := sessions_release sound.identified now connection connection
    rw [if_pos rfl] at gone
    rw [Option.eq_none_iff_forall_ne_some]
    intro u session
    obtain ⟨id, bound, -⟩ := Store.session?_eq_some_iff.1 session
    cases gone.symm.trans bound
  · obtain ⟨offline, told⟩ := own u session
    exact ⟨offline, fun other client isOpen works => List.mem_append_right _ (told other client isOpen works)⟩
  · have stays := others other u ne session
    exact ⟨stays, soundThen.identified.consistent.mem_online_of_session? stays⟩

/-! ## Incidents met to their end -/

/-- Incidents as steps that are met to their end. -/
def met (incidents : List (Instant × Incident)) : List (Instant × Act) := incidents.map fun i => (i.1, .meet i.2)

theorem after_met (s : Server) (incidents : List (Instant × Incident)) :
    (idle s).after (met incidents) = idle (s.advance incidents) := by
  induction incidents generalizing s with
  | nil => rfl
  | cons i rest ih => exact ih (s.meet i.1 i.2).1

theorem not_abandons_met (w : Ongoing) {incidents : List (Instant × Incident)} {k : Nat} {a : Instant × Act}
    (next : (met incidents)[k]? = some a) (c : String) : ¬Abandons w a.1 c a.2 := by
  rw [met, List.getElem?_map] at next
  obtain ⟨i, -, rfl⟩ := Option.map_eq_some_iff.1 next
  nofun

theorem not_stray_idle (unbound : s.hub.store.sessions = .empty) : ¬Stray (idle s) c := by
  rintro ⟨⟨-, id, session⟩, -⟩
  rw [idle, unbound] at session
  cases session

/-- After any steps from a fresh server, a session has been stray exactly if a step has abandoned it: a dropped
connection with a session was cancelled while it waited to be closed, or a thread succeeded in logging in a connection
that had ended. Who is online is logged in on some connection. A connection that ends goes to those that wait to be
closed, at once or as the first half of what is met to its end. When such a connection is closed, who was logged in on
it is offline, everybody whose writing works is told so, and everybody else stays as they are. So as long as everything
is met to its end, the sessions are on open connections. -/
theorem sessions_end_unless_abandoned {hasher : Hasher} {maxHistory : Nat} {maxPrivateHistory : Int}
    {cache : Rates.Cache} {surroundings : BuiltIn.Surroundings} {chatLog : ChatLog} {limit : Nat}
    (acts : List (Instant × Act)) :
    let start := Server.create (.create (.empty hasher maxHistory maxPrivateHistory) cache surroundings chatLog) limit
    let w := (idle start).after acts
    ((∀ k c, ¬Stray ((idle start).after (acts.take k)) c) ↔
      ∀ k a, acts[k]? = some a → ∀ c, ¬Abandons ((idle start).after (acts.take k)) a.1 c a.2) ∧
    (∀ name, name ∈ w.server.hub.store.online ↔
      ∃ c u, w.server.hub.store.session? c = some u ∧ u.username = name) ∧
    (∀ now act c client, w.server.clients.find? c = some client → (w.act now act).1.server.clients.find? c = none →
      (∃ client, (w.act now act).1.leaving.find? c = some client) ∨
        ∃ occurrence, act = .meet (.occur c occurrence) ∧
          let left := w.act now (.leave c occurrence)
          let done := left.1.act now (.finish c)
          (∃ client, left.1.leaving.find? c = some client) ∧ w.act now act = (done.1, left.2 ++ done.2)) ∧
    (∀ now c client, w.leaving.find? c = some client →
      let done := w.act now (.finish c)
      done.1.leaving.find? c = none ∧ done.1.server.hub.store.session? c = none ∧
        (∀ u, w.server.hub.store.session? c = some u → u.username ∉ done.1.server.hub.store.online ∧
          ∀ other client, done.1.server.clients.find? other = some client → client.broken = false →
            .sent other (.onlineUsers done.1.server.hub.store.online) ∈ done.2) ∧
        ∀ other u, other ≠ c → w.server.hub.store.session? other = some u →
          done.1.server.hub.store.session? other = some u ∧ u.username ∈ done.1.server.hub.store.online) ∧
    ∀ incidents,
      let s := start.advance incidents
      (∀ c id, s.hub.store.sessions.find? c = some id → ∃ client, s.clients.find? c = some client) ∧
        ∀ name, name ∈ s.hub.store.online ↔ ∃ c client u, s.clients.find? c = some client ∧
          s.hub.store.session? c = some u ∧ u.username = name := by
  intro start w
  have fresh : Sound (idle start) := sound_idle (Server.identified_create ..)
  have clear (c : String) : ¬Stray (idle start) c := not_stray_idle rfl
  have sound : Sound w := fresh.after acts
  refine ⟨no_stray_iff fresh clear acts, fun name => sound.identified.consistent.mem_online_iff_session, ?_,
    fun now c client => finish_session sound now, fun incidents => ?_⟩
  · intro now act c client isOpen ended
    rcases (acted_act w now act).waits_or_met isOpen ended with waits | ⟨occurrence, word, rfl, said⟩
    · exact .inl waits
    · refine .inr ⟨occurrence, rfl, ?_, meet_eq_leave_finish sound now isOpen said⟩
      exact ⟨client, by simp only [Ongoing.act, leave, isOpen, said, dismiss, Table.find?_insert, if_pos]⟩
  · intro s
    have served (c : String) (id : Id) (session : s.hub.store.sessions.find? c = some id) :
        ∃ client, s.clients.find? c = some client := by
      have never := (no_stray_iff fresh clear (met incidents)).2 (fun k a next => not_abandons_met _ next)
        (met incidents).length c
      rw [List.take_length, after_met] at never
      cases found : s.clients.find? c with
      | some client => exact ⟨client, rfl⟩
      | none => exact absurd ⟨⟨found, id, session⟩, rfl⟩ never
    have soundThen : Sound (idle s) := after_met start incidents ▸ fresh.after (met incidents)
    have consistent : s.hub.store.Consistent := soundThen.identified.consistent
    refine ⟨served, fun name => ?_⟩
    rw [consistent.mem_online_iff_session]
    constructor
    · rintro ⟨c, u, session, same⟩
      obtain ⟨id, bound, -⟩ := Store.session?_eq_some_iff.1 session
      obtain ⟨client, isOpen⟩ := served c id bound
      exact ⟨c, client, u, isOpen, session, same⟩
    · rintro ⟨c, -, u, -, session, same⟩
      exact ⟨c, u, session, same⟩

/-- A server with nobody there. -/
def vacant : Ongoing :=
  idle (.create (.create (.empty .plain 5 5) (.empty 60 Instant.uptime) ⟨[], []⟩ .default) Server.defaultLimit)

/-- The first of two clients is logged in and closes; it waits to be closed. -/
def departure : List (Instant × Act) := met Server.visit ++ [(⟨5⟩, .leave (Id.ofNumber 1).text .endOfFile)]

theorem sessions_end_unless_abandoned_of_departure :
    let w := vacant.after departure
    let done := w.act ⟨6⟩ (.finish (Id.ofNumber 1).text)
    w.server.hub.store.online = ["alice"] ∧ ("alice" : Text) ∉ done.1.server.hub.store.online ∧
      .sent (Id.ofNumber 2).text (.onlineUsers done.1.server.hub.store.online) ∈ done.2 := by
  intro w done
  have facts : w.server.hub.store.online = ["alice"] ∧
      w.leaving.find? (Id.ofNumber 1).text = some ⟨[], false, false⟩ ∧
      (w.server.hub.store.session? (Id.ofNumber 1).text).map (·.username) = some "alice" ∧
      done.1.server.clients.find? (Id.ofNumber 2).text = some ⟨[], false, false⟩ := by decide +kernel
  obtain ⟨online, waits, session, otherOpen⟩ := facts
  have ends := (sessions_end_unless_abandoned departure).2.2.2.1 ⟨6⟩ (Id.ofNumber 1).text ⟨[], false, false⟩ waits
  obtain ⟨-, -, own, -⟩ := ends
  obtain ⟨u, session, named⟩ := Option.map_eq_some_iff.1 session
  obtain ⟨offline, told⟩ := own u session
  exact ⟨online, named ▸ offline, told (Id.ofNumber 2).text ⟨[], false, false⟩ otherOpen rfl⟩

/-- The first of two clients is cancelled while a thread works on its login, and closed; then the thread is done. -/
def lateLogin : List (Instant × Act) :=
  met (Server.visit.take 3) ++
    [(⟨4⟩, .strike (Id.ofNumber 1).text (.bytes (Request.login "alice" "secret").line) .waiting),
      (⟨5⟩, .finish (Id.ofNumber 1).text), (⟨6⟩, .carry 0)]

/-- A connection that is cancelled while it waits to be closed, and one that is cancelled while a thread works on its
login, leave alice online with nobody there. -/
theorem session_left_behind :
    let left := vacant.after (departure ++ [(⟨6⟩, .abandon (Id.ofNumber 1).text)])
    let late := vacant.after lateLogin
    (Stray left (Id.ofNumber 1).text ∧ left.server.hub.store.online = ["alice"]) ∧
      Stray late (Id.ofNumber 1).text ∧ late.server.hub.store.online = ["alice"] := by
  intro left late
  have facts : (left.server.clients.find? (Id.ofNumber 1).text = none ∧
        (left.server.hub.store.sessions.find? (Id.ofNumber 1).text).isSome ∧
        left.leaving.find? (Id.ofNumber 1).text = none ∧ left.server.hub.store.online = ["alice"]) ∧
      late.server.clients.find? (Id.ofNumber 1).text = none ∧
        (late.server.hub.store.sessions.find? (Id.ofNumber 1).text).isSome ∧
        late.leaving.find? (Id.ofNumber 1).text = none ∧ late.server.hub.store.online = ["alice"] := by decide +kernel
  obtain ⟨⟨closed, bound, gone, online⟩, closed', bound', gone', online'⟩ := facts
  exact ⟨⟨⟨⟨closed, Option.isSome_iff_exists.1 bound⟩, gone⟩, online⟩,
    ⟨⟨closed', Option.isSome_iff_exists.1 bound'⟩, gone'⟩, online'⟩

end Ongoing

end ChatService
