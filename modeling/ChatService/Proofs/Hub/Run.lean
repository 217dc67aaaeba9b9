import ChatService.Hub.Basic
import ChatService.Proofs.Store.Consistency

/-!
# Runs of the hub

A run is a list of steps: at some time some connection asks for something. A turn is one
step of a run together with the hub that it meets. The hub changes its store only through
the operations of the store, with the account of the session as the one who acts.
-/

namespace ChatService

namespace Hub

/-- What a connection can ask the hub for. -/
inductive Operation
  | connect
  | disconnect
  | heartbeat
  | message (text : Option Text)
  | register (username email password : Option Text)
  | login (username password : Option Text)
  | logout
  | sendPrivate (recipient text : Option Text)
  | getPrivateHistory (username : Option Text)
  | addContact (username : Option Text)
  | getContacts
  | getHistory
deriving DecidableEq

/-- One step of a run. -/
structure Step where
  time : Instant
  connection : String
  operation : Operation
deriving DecidableEq

/-- Carries out a step. -/
def perform (hub : Hub) (step : Step) : Done :=
  match step.operation with
  | .connect => .of (hub.connect step.connection)
  | .disconnect => .of (hub.disconnect step.time step.connection)
  | .heartbeat => .of (hub.heartbeat step.time step.connection)
  | .message text => .of (hub.message step.time step.connection text)
  | .register username email password => .of (hub.register step.time step.connection username email password)
  | .login username password => .of (hub.login step.time step.connection username password)
  | .logout => .of (hub.logout step.time step.connection)
  | .sendPrivate recipient text => .of (hub.sendPrivate step.time step.connection recipient text)
  | .getPrivateHistory username => .of (hub.getPrivateHistory step.connection username)
  | .addContact username => .of (hub.addContact step.time step.connection username)
  | .getContacts => .of (hub.getContacts step.connection)
  | .getHistory => .of (hub.getHistory step.connection)

/-- A step and the hub that it meets. -/
structure Turn where
  hub : Hub
  step : Step

/-- What happens in a turn. -/
def Turn.done (turn : Turn) : Done := turn.hub.perform turn.step

/-- The turns of a run. -/
def turns (hub : Hub) : List Step → List Turn
  | [] => []
  | step :: rest => ⟨hub, step⟩ :: (hub.perform step).hub.turns rest

/-- The hub after a run. -/
def advance (hub : Hub) (steps : List Step) : Hub := steps.foldl (fun hub step => (hub.perform step).hub) hub

variable {hub : Hub}

/-! ## The store -/

/-- The store after a step is the one before, or comes from one of the six changes. -/
theorem perform_store (hub : Hub) (step : Step) {P : Store → Prop} (unchanged : P hub.store)
    (registered : ∀ username email password u s', step.operation = .register username email password →
      hub.store.register step.time username email password = .ok (u, s') → P s')
    (loggedIn : ∀ username password u s', step.operation = .login username password →
      hub.store.login step.time username password step.connection = .ok (u, s') → P s')
    (disconnected : step.operation = .logout ∨ step.operation = .disconnect →
      P (hub.store.disconnect step.time step.connection).2)
    (posted : ∀ text u, step.operation = .message text → hub.store.session? step.connection = some u →
      P (hub.store.post step.time u.username (text.getD "")).2)
    (sent : ∀ recipient text u m s', step.operation = .sendPrivate recipient text →
      hub.store.session? step.connection = some u →
      hub.store.sendPrivate step.time u.id recipient text = .ok (m, s') → P s')
    (added : ∀ target u new s', step.operation = .addContact target →
      hub.store.session? step.connection = some u →
      hub.store.addContact step.time u.id target = .ok (new, s') → P s') :
    P (hub.perform step).hub.store := by
  obtain ⟨now, connection, operation⟩ := step
  cases operation with
  | connect | heartbeat | getHistory => exact unchanged
  | disconnect =>
    have ended := disconnected (.inr rfl)
    simp only [perform, Done.of, Hub.disconnect]
    split
    · next result => simpa [result] using ended
    · next result => simpa [result] using ended
  | logout =>
    have ended := disconnected (.inl rfl)
    simp only [perform, Done.of, Hub.logout, Store.logout]
    split
    · next result => simpa [result] using ended
    · next result => simpa [result] using ended
  | message text =>
    simp only [perform, Done.of, Hub.message]
    split
    · exact unchanged
    · split
      · exact unchanged
      · next u session =>
        split
        · exact unchanged
        · exact posted text u rfl session
  | register username email password =>
    simp only [perform, Done.of, Hub.register]
    split
    · exact unchanged
    · exact unchanged
    · next u s' result => exact registered _ _ _ u s' rfl result
  | login username password =>
    simp only [perform, Done.of, Hub.login]
    split
    · exact unchanged
    · next u s' result => exact loggedIn _ _ u s' rfl result
  | sendPrivate recipient text =>
    simp only [perform, Done.of, Hub.sendPrivate]
    split
    · exact unchanged
    · next u session =>
      split
      · exact unchanged
      · next m s' result => exact sent _ _ u m s' rfl session result
  | getPrivateHistory username =>
    simp only [perform, Done.of, Hub.getPrivateHistory]
    split
    · exact unchanged
    · split <;> exact unchanged
  | addContact username =>
    simp only [perform, Done.of, Hub.addContact]
    split
    · exact unchanged
    · next u session =>
      split
      · exact unchanged
      · next new s' result => exact added _ u new s' rfl session result
  | getContacts =>
    simp only [perform, Done.of, Hub.getContacts]
    split <;> exact unchanged

/-- The account of a session exists under its identity. -/
theorem find?_of_session? {s : Store} (linked : s.Linked) {connection : String} {u : User}
    (session : s.session? connection = some u) : s.users.find? u.id = some u := by
  obtain ⟨id, -, found⟩ := Store.session?_eq_some_iff.1 session
  rwa [linked.keyed found]

theorem linked_perform (linked : hub.store.Linked) (step : Step) : (hub.perform step).hub.store.Linked := by
  apply perform_store (P := Store.Linked)
  · exact linked
  · intro _ _ _ _ _ _ ok
    exact Store.linked_register linked ok
  · intro _ _ _ _ _ ok
    exact Store.linked_login linked ok
  · intro _
    exact Store.linked_disconnect linked
  · intro text u _ _
    exact Store.linked_post linked u.username _
  · intro _ _ u _ _ _ session ok
    exact Store.linked_sendPrivate linked ⟨u, find?_of_session? linked session⟩ ok
  · intro _ u _ _ _ session ok
    exact Store.linked_addContact linked ⟨u, find?_of_session? linked session⟩ ok

theorem consistent_perform (consistent : hub.store.Consistent) {step : Step} (named : step.connection ≠ "") :
    (hub.perform step).hub.store.Consistent := by
  have known {u : User} (session : hub.store.session? step.connection = some u) :
      ∃ v, hub.store.users.find? u.id = some v := ⟨u, find?_of_session? consistent.toLinked session⟩
  apply perform_store (P := Store.Consistent)
  · exact consistent
  · intro _ _ _ _ _ _ ok
    exact Store.consistent_register consistent ok
  · intro _ _ _ _ _ ok
    exact Store.consistent_login consistent named ok
  · intro _
    exact Store.consistent_disconnect consistent
  · intro text u _ _
    exact Store.consistent_post consistent u.username _
  · intro _ _ _ _ _ _ session ok
    exact Store.consistent_sendPrivate consistent (known session) ok
  · intro _ _ _ _ _ session ok
    exact Store.consistent_addContact consistent (known session) ok

/-- A step opens a session by a login only, on its own connection. -/
theorem session_opened (consistent : hub.store.Consistent) (step : Step) {connection : String} {id : Id}
    (session : (hub.perform step).hub.store.sessions.find? connection = some id) :
    (connection = step.connection ∧ ∃ username password u store, step.operation = .login username password ∧
        hub.store.login step.time username password step.connection = .ok (u, store)) ∨
      hub.store.sessions.find? connection = some id := by
  revert session
  apply perform_store hub step (P := fun s => s.sessions.find? connection = some id → _ ∨ _)
  · exact .inr
  · intro _ _ _ _ _ _ ok session
    obtain ⟨-, -, -, -, -, -, -, -, -, -, -, rfl⟩ := Store.register_ok ok
    exact .inr session
  · intro username password u store is ok session
    rw [Store.login_sessions consistent ok] at session
    split at session
    · next here => exact .inl ⟨here, username, password, u, store, is, ok⟩
    · exact .inr (Option.ite_none_left_eq_some.1 session).2
  · intro _ session
    rw [Store.sessions_disconnect consistent.toLinked] at session
    exact .inr (Option.ite_none_left_eq_some.1 session).2
  · intro _ _ _ _
    exact .inr
  · intro _ _ _ _ _ _ _ ok session
    obtain ⟨-, -, -, -, -, -, -, -, rfl⟩ := Store.sendPrivate_ok ok
    exact .inr session
  · intro _ _ _ _ _ _ ok session
    obtain ⟨_, -, -, ⟨-, rfl, -⟩ | ⟨-, -, rfl⟩⟩ := Store.addContact_ok ok
    · exact .inr session
    · exact .inr session

/-- A step opens a session on its own connection at most. -/
theorem sessions_perform (consistent : hub.store.Consistent) (step : Step) {connection : String} {id : Id}
    (session : (hub.perform step).hub.store.sessions.find? connection = some id) :
    connection = step.connection ∨ hub.store.sessions.find? connection = some id :=
  (session_opened consistent step session).imp_left And.left

theorem store_perform_disconnect (hub : Hub) (now : Instant) (connection : String) :
    (hub.perform ⟨now, connection, .disconnect⟩).hub.store = (hub.store.disconnect now connection).2 := by
  simp only [perform, Done.of, Hub.disconnect]
  split
  · next result => rw [result]
  · next result => rw [result]

theorem store_perform_login {now : Instant} {connection : String} {username password : Option Text} {u : User}
    {store : Store} (ok : hub.store.login now username password connection = .ok (u, store)) :
    (hub.perform ⟨now, connection, .login username password⟩).hub.store = store := by
  simp only [perform, Done.of, Hub.login, ok]

/-- Identities are only ever drawn. -/
theorem drawn_perform (hub : Hub) (step : Step) {id : Id} (drawn : hub.store.Drawn id) :
    (hub.perform step).hub.store.Drawn id := by
  apply perform_store (P := fun s => s.Drawn id)
  · exact drawn
  · intro _ _ _ _ _ _ ok
    obtain ⟨-, -, -, -, -, -, -, -, -, -, -, rfl⟩ := Store.register_ok ok
    exact drawn.draw
  · intro _ _ _ _ _ ok
    exact drawn.of_onlySessions (Store.onlySessions_login ok)
  · intro _
    exact drawn.of_onlySessions (Store.onlySessions_disconnect ..)
  · intro _ _ _ _
    exact drawn
  · intro _ _ _ _ _ _ _ ok
    obtain ⟨-, -, -, -, -, -, -, -, rfl⟩ := Store.sendPrivate_ok ok
    exact drawn.draw
  · intro _ _ _ _ _ _ ok
    obtain ⟨_, -, -, ⟨-, rfl, -⟩ | ⟨-, -, rfl⟩⟩ := Store.addContact_ok ok
    · exact drawn
    · exact drawn.draw

/-! ## Whole runs -/

/-- The turn of a run meets a hub that some earlier part of the run leads to. -/
theorem exists_advance_of_mem_turns {steps : List Step} {turn : Turn} (member : turn ∈ hub.turns steps) :
    ∃ earlier, turn.hub = hub.advance earlier := by
  induction steps generalizing hub with
  | nil => cases member
  | cons step rest ih =>
    rcases List.mem_cons.1 member with rfl | later
    · exact ⟨[], rfl⟩
    · obtain ⟨earlier, reached⟩ := ih later
      exact ⟨step :: earlier, reached⟩

theorem linked_advance (linked : hub.store.Linked) (steps : List Step) : (hub.advance steps).store.Linked := by
  induction steps generalizing hub with
  | nil => exact linked
  | cons step rest ih => exact ih (linked_perform linked step)

/-- A run from a fresh hub leads to the hub. -/
def Reachable (hub : Hub) : Prop :=
  ∃ hasher maxHistory maxPrivateHistory cache surroundings chatLog steps,
    hub = (create (.empty hasher maxHistory maxPrivateHistory) cache surroundings chatLog).advance steps

theorem Reachable.linked (reachable : hub.Reachable) : hub.store.Linked := by
  obtain ⟨hasher, maxHistory, maxPrivateHistory, cache, surroundings, chatLog, steps, rfl⟩ := reachable
  exact linked_advance (Store.consistent_empty hasher maxHistory maxPrivateHistory).toLinked steps

end Hub

end ChatService
