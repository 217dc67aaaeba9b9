import ChatService.Proofs.Store.Consistency

/-!
# The invariant of every run

Each operation keeps the store consistent, and an account that was handed out exists from
then on. So after every run the five views of the accounts agree.
-/

namespace ChatService

namespace Store

variable {s s' : Store} {now : Instant}

/-- The store after an operation is the one before, or comes from one of the six changes. -/
theorem perform_cases (s : Store) (now : Instant) (operation : Operation) {P : Store → Prop} (unchanged : P s)
    (registered : ∀ username email password u s', operation = .register username email password →
      s.register now username email password = .ok (u, s') → P s')
    (loggedIn : ∀ username password connection u s', operation = .login username password connection →
      s.login now username password connection = .ok (u, s') → P s')
    (disconnected : ∀ connection, operation = .logout connection ∨ operation = .disconnect connection →
      P (s.disconnect now connection).2)
    (posted : ∀ username text, operation = .post username text → P (s.post now username text).2)
    (sent : ∀ sender recipient text m s', operation = .sendPrivate sender recipient text →
      s.sendPrivate now sender.id recipient text = .ok (m, s') → P s')
    (added : ∀ owner target new s', operation = .addContact owner target →
      s.addContact now owner.id target = .ok (new, s') → P s') :
    P (s.perform now operation).2 := by
  cases operation with
  | register username email password =>
    cases result : s.register now username email password with
    | error refusal => simpa [perform, settle, result] using unchanged
    | ok value => simpa [perform, settle, result] using registered _ _ _ value.1 value.2 rfl result
  | login username password connection =>
    cases result : s.login now username password connection with
    | error refusal => simpa [perform, settle, result] using unchanged
    | ok value => simpa [perform, settle, result] using loggedIn _ _ _ value.1 value.2 rfl result
  | logout connection => exact disconnected connection (.inl rfl)
  | disconnect connection => exact disconnected connection (.inr rfl)
  | post username text => exact posted username text rfl
  | sendPrivate sender recipient text =>
    cases result : s.sendPrivate now sender.id recipient text with
    | error refusal => simpa [perform, settle, result] using unchanged
    | ok value => simpa [perform, settle, result] using sent _ _ _ value.1 value.2 rfl result
  | addContact owner target =>
    cases result : s.addContact now owner.id target with
    | error refusal => simpa [perform, settle, result] using unchanged
    | ok value => simpa [perform, settle, result] using added _ _ value.1 value.2 rfl result
  | session _ | user _ | online | history | privateHistory _ _ | contacts _ => exact unchanged

/-- No operation removes an account or changes anything of it but its session. -/
theorem perform_keeps (linked : Linked s) (now : Instant) (operation : Operation) {id : Id} {u : User}
    (found : s.users.find? id = some u) :
    ∃ u', (s.perform now operation).2.users.find? id = some u' ∧ u'.registered = u.registered := by
  apply perform_cases (P := fun s' => ∃ u', s'.users.find? id = some u' ∧ u'.registered = u.registered)
  · exact ⟨u, found, rfl⟩
  · intro _ _ _ v s' _ ok
    obtain ⟨new, -, -, -, -, -, -, -, -, -, -, rfl⟩ := register_ok ok
    refine ⟨u, ?_, rfl⟩
    have fresh : s.users.find? v.id = none := new ▸ find?_nextId linked
    rw [Table.find?_insert, if_neg (fun same => by simp [same, fresh] at found), found]
  · intro _ _ _ _ s' _ ok
    exact (sameAccounts_login linked ok).find found
  · intro _ _
    exact (sameAccounts_disconnect linked).find found
  · intro _ _ _
    exact ⟨u, found, rfl⟩
  · intro _ _ _ _ s' _ ok
    obtain ⟨-, -, -, -, -, -, -, -, rfl⟩ := sendPrivate_ok ok
    exact ⟨u, found, rfl⟩
  · intro _ _ _ s' _ ok
    obtain ⟨_, -, -, ⟨-, rfl, -⟩ | ⟨-, -, rfl⟩⟩ := addContact_ok ok
    · exact ⟨u, found, rfl⟩
    · exact ⟨u, found, rfl⟩

theorem ofUser?_eq_user {v : Option User} {u : User} (answered : Answer.ofUser? v = .user u) : v = some u := by
  cases v with
  | none => cases answered
  | some v => cases answered; rfl

/-- The account whose session is ended is in the store as it is returned. -/
theorem find?_of_disconnect (linked : Linked s) {connection : String} {u : User}
    (ended : (s.disconnect now connection).1 = some u) :
    (s.disconnect now connection).2.users.find? u.id = some u := by
  cases bound : s.sessions.find? connection with
  | none => rw [disconnect_unbound bound] at ended; cases ended
  | some id =>
    obtain ⟨v, found⟩ := linked.bound bound
    rw [disconnect_bound bound found] at ended ⊢
    cases ended
    have keyed := linked.keyed found
    subst keyed
    rw [Table.find?_insert]
    exact if_pos rfl

/-- An account that is handed out is in the store as it is. -/
theorem perform_handsOut (linked : Linked s) {operation : Operation} {u : User}
    (answered : (s.perform now operation).1 = .user u) :
    (s.perform now operation).2.users.find? u.id = some u := by
  cases operation with
  | register username email password =>
    cases result : s.register now username email password with
    | error refusal => simp [perform, settle, result] at answered
    | ok value =>
      obtain ⟨v, s'⟩ := value
      simp only [perform, settle, result, Answer.user.injEq] at answered ⊢
      subst answered
      obtain ⟨-, -, -, -, -, -, -, -, -, -, -, rfl⟩ := register_ok result
      rw [Table.find?_insert, if_pos rfl]
  | login username password connection =>
    cases result : s.login now username password connection with
    | error refusal => simp [perform, settle, result] at answered
    | ok value =>
      obtain ⟨v, s'⟩ := value
      simp only [perform, settle, result, Answer.user.injEq] at answered ⊢
      subst answered
      obtain ⟨w, -, -, -, same, -, users⟩ := login_users linked result
      rw [users, if_pos (by rw [same]; rfl)]
  | logout connection => exact find?_of_disconnect linked (ofUser?_eq_user answered)
  | disconnect connection => exact find?_of_disconnect linked (ofUser?_eq_user answered)
  | session connection =>
    obtain ⟨id, -, found⟩ := session?_eq_some_iff.1 (ofUser?_eq_user answered)
    exact (linked.keyed found).symm ▸ found
  | user username =>
    obtain ⟨name, id, -, -, found⟩ := user?_eq_some_iff.1 (ofUser?_eq_user answered)
    exact (linked.keyed found).symm ▸ found
  | sendPrivate sender recipient text =>
    cases result : s.sendPrivate now sender.id recipient text <;> simp [perform, settle, result] at answered
  | addContact owner target =>
    cases result : s.addContact now owner.id target <;> simp [perform, settle, result] at answered
  | post _ _ | online | history | privateHistory _ _ | contacts _ => cases answered

/-- One permitted operation keeps the store linked. -/
theorem linked_perform (linked : Linked s) {log : List Event} {operation : Operation}
    (known : ∀ u, HandedOut log u → ∃ v, s.users.find? u.id = some v) (permitted : Permitted log operation) :
    Linked (s.perform now operation).2 := by
  apply perform_cases (P := Linked)
  · exact linked
  · intro _ _ _ _ _ _ ok
    exact linked_register linked ok
  · intro _ _ _ _ _ _ ok
    exact linked_login linked ok
  · intro _ _
    exact linked_disconnect linked
  · intro username text _
    exact linked_post linked username text
  · rintro sender _ _ _ _ rfl ok
    exact linked_sendPrivate linked (known sender permitted) ok
  · rintro owner _ _ _ rfl ok
    exact linked_addContact linked (known owner permitted) ok

/-- One permitted operation on a connection with a name keeps the store consistent. -/
theorem consistent_perform (consistent : Consistent s) (now : Instant) {log : List Event} {operation : Operation}
    (known : ∀ u, HandedOut log u → ∃ v, s.users.find? u.id = some v) (permitted : Permitted log operation)
    (named : operation.connection? ≠ some "") : Consistent (s.perform now operation).2 := by
  apply perform_cases (P := Consistent)
  · exact consistent
  · intro _ _ _ _ _ _ ok
    exact consistent_register consistent ok
  · rintro _ _ connection _ _ rfl ok
    exact consistent_login consistent (fun empty => named (congrArg some empty)) ok
  · intro _ _
    exact consistent_disconnect consistent
  · intro username text _
    exact consistent_post consistent username text
  · rintro sender _ _ _ _ rfl ok
    exact consistent_sendPrivate consistent (known sender permitted) ok
  · rintro owner _ _ _ rfl ok
    exact consistent_addContact consistent (known owner permitted) ok

/-- The hasher of a store is always the same. -/
theorem hasher_perform (s : Store) (now : Instant) (operation : Operation) :
    (s.perform now operation).2.hasher = s.hasher := by
  apply perform_cases (P := fun s' => s'.hasher = s.hasher)
  · rfl
  · intro _ _ _ _ _ _ ok
    obtain ⟨-, -, -, -, -, -, -, -, -, -, -, rfl⟩ := register_ok ok
    rfl
  · intro _ _ _ _ _ _ ok
    exact (onlySessions_login ok).hasher_eq
  · intro connection _
    exact (onlySessions_disconnect s now connection).hasher_eq
  · intro _ _ _
    rfl
  · intro _ _ _ _ _ _ ok
    obtain ⟨-, -, -, -, -, -, -, -, rfl⟩ := sendPrivate_ok ok
    rfl
  · intro _ _ _ _ _ ok
    obtain ⟨_, -, -, ⟨-, rfl, -⟩ | ⟨-, -, rfl⟩⟩ := addContact_ok ok <;> rfl

theorem Run.hasher_eq {start : Store} {log : List Event} (run : Run start log s) : s.hasher = start.hasher := by
  refine run.induct (motive := fun _ s => s.hasher = start.hasher) rfl ?_
  intro log s now operation same _
  rw [hasher_perform, same]

/-- After every run the store is linked, and who was handed out exists. -/
theorem Run.linked {start : Store} (initial : Linked start) {log : List Event} (run : Run start log s) :
    Linked s ∧ ∀ u, HandedOut log u → ∃ v, s.users.find? u.id = some v ∧ v.registered = u.registered := by
  refine run.induct (motive := fun log s =>
    Linked s ∧ ∀ u, HandedOut log u → ∃ v, s.users.find? u.id = some v ∧ v.registered = u.registered) ?_ ?_
  · exact ⟨initial, fun u handed => by obtain ⟨e, member, -⟩ := handed; cases member⟩
  · rintro log s now operation ⟨linked, known⟩ permitted
    have exists_ (u : User) (handed : HandedOut log u) : ∃ v, s.users.find? u.id = some v := by
      obtain ⟨v, found, -⟩ := known u handed
      exact ⟨v, found⟩
    refine ⟨linked_perform linked exists_ permitted, ?_⟩
    rintro u ⟨e, member, answered⟩
    rcases List.mem_append.1 member with earlier | last
    · obtain ⟨v, found, registered⟩ := known u ⟨e, earlier, answered⟩
      obtain ⟨v', found', registered'⟩ := perform_keeps linked now operation found
      exact ⟨v', found', registered'.trans registered⟩
    · rw [List.mem_singleton] at last
      subst last
      exact ⟨u, perform_handsOut linked answered, rfl⟩

/-- After every run on connections with names the store is consistent. -/
theorem Run.consistent {start : Store} (initial : Consistent start) {log : List Event} (run : Run start log s)
    (named : Named log) : Consistent s := by
  induction run with
  | nothing => exact initial
  | @step log s s' now operation answer earlier permitted performed ih =>
    obtain ⟨-, known⟩ := earlier.linked initial.toLinked
    have before := ih fun e member => named e (List.mem_append_left _ member)
    have after := consistent_perform before now (fun u handed => ?_) permitted
      (named ⟨now, operation, answer⟩ (List.mem_append_right _ (List.mem_singleton_self _)))
    · rwa [performed] at after
    · obtain ⟨v, found, -⟩ := known u handed
      exact ⟨v, found⟩

/-- After every run from an empty store: a session is the connection that an account is on; an account is
online when it is on a connection; no account is on two connections and no connection has two accounts; the
indexes are exactly the usernames and the lower-case emails of the accounts, and no two accounts share one;
contacts and private messages lead to two different accounts that exist. -/
theorem views_agree_after_run {hasher : Hasher} {maxHistory : Nat} {maxPrivateHistory : Int} {log : List Event}
    (run : Run (.empty hasher maxHistory maxPrivateHistory) log s) (named : Named log) :
    (∀ c id, s.sessions.find? c = some id ↔ ∃ u, s.users.find? id = some u ∧ u.connection = some c) ∧
    (∀ id u, s.users.find? id = some u → (u.isOnline = true ↔ u.connection.isSome = true)) ∧
    (∀ c c' id, s.sessions.find? c = some id → s.sessions.find? c' = some id → c = c') ∧
    (∀ c id id' u u', s.users.find? id = some u → s.users.find? id' = some u' →
      u.connection = some c → u'.connection = some c → id = id') ∧
    Indexes s.users User.username s.byUsername ∧ Indexes s.users emailKey s.byEmail ∧
    (∀ name name' id, s.byUsername.find? name = some id → s.byUsername.find? name' = some id → name = name') ∧
    (∀ key key' id, s.byEmail.find? key = some id → s.byEmail.find? key' = some id → key = key') ∧
    (∀ id id' u u', s.users.find? id = some u → s.users.find? id' = some u' →
      u.username = u'.username ∨ emailKey u = emailKey u' → id = id') ∧
    (∀ c ∈ s.contacts, c.owner ≠ c.target ∧
      (∃ u, s.users.find? c.owner = some u) ∧ ∃ u, s.users.find? c.target = some u) ∧
    ∀ m ∈ s.privateMessages, m.sender ≠ m.recipient ∧
      (∃ u, s.users.find? m.sender = some u) ∧ ∃ u, s.users.find? m.recipient = some u := by
  have consistent := run.consistent (consistent_empty hasher maxHistory maxPrivateHistory) named
  refine ⟨consistent.session_iff, fun id u => consistent.online_iff, ?_, ?_, consistent.byUsername,
    consistent.byEmail, fun _ _ _ => consistent.byUsername.injective, fun _ _ _ => consistent.byEmail.injective,
    ?_, consistent.contacts, consistent.privateMessages⟩
  · intro c c' id here there
    obtain ⟨u, found⟩ := consistent.bound here
    rw [consistent.bound_iff found] at here there
    rw [here, Option.some.injEq] at there
    exact there
  · intro c id id' u u' found found' connected connected'
    have here := (consistent.bound_iff found c).2 connected
    have there := (consistent.bound_iff found' c).2 connected'
    rw [here, Option.some.injEq] at there
    exact there
  · rintro id id' u u' found found' (same | same)
    · exact consistent.byUsername.unique found found' same
    · exact consistent.byEmail.unique found found' same

private def ann : User :=
  ⟨Id.ofNumber 1, "ann", "a@x", Hasher.plain.hash 0 (Password.digest "secret"), false, none, ⟨1⟩, ⟨1⟩⟩

theorem views_agree_after_first_message : ∃ log s, Run (.empty .plain 5 5) log s ∧ log.length = 5 ∧
    (∃ m ∈ s.privateMessages, m.sender ≠ m.recipient ∧
      (∃ u, s.users.find? m.sender = some u) ∧ ∃ u, s.users.find? m.recipient = some u) ∧
    ∀ id, s.sessions.find? "c" = some id ↔ ∃ u, s.users.find? id = some u ∧ u.connection = some "c" := by
  have run : Run (.empty .plain 5 5) [] (.empty .plain 5 5) := .nothing
  have run := run.extend ⟨1⟩ (.register (some "ann") (some "a@x") (some "secret")) trivial
  have run := run.extend ⟨2⟩ (.register (some "bob") (some "b@x") (some "secret")) trivial
  have run := run.extend ⟨3⟩ (.login (some "ann") (some "secret") "c") trivial
  have run := run.extend ⟨4⟩ (.sendPrivate ann (some "bob") (some "hi")) (by decide +kernel)
  have run := run.extend ⟨5⟩ (.disconnect "d") trivial
  obtain ⟨sessions, -, -, -, -, -, -, -, -, -, messages⟩ := views_agree_after_run run (by decide +kernel)
  exact ⟨_, _, run, rfl, ⟨⟨Id.ofNumber 3, Id.ofNumber 1, Id.ofNumber 2, "hi", ⟨4⟩, false⟩, by decide +kernel,
    messages _ (by decide +kernel)⟩, sessions "c"⟩

end Store

end ChatService
