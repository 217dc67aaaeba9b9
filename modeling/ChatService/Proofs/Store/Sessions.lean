import ChatService.Proofs.Store.Invariant

/-!
# Sessions as a function of the history

Who is logged in where, who is online and when an account was last seen can be read off
the log of a run: the last login counts until somebody leaves the connection, another
account logs in there, or the account logs in elsewhere.
-/

namespace ChatService

namespace Store

variable {s s' : Store} {now : Instant}

/-! ## Reading the log -/

/-- A successful login of an account on a connection. -/
def Event.LogsIn (e : Event) (id : Id) (connection : String) : Prop :=
  ∃ username password u, e.operation = .login username password connection ∧ e.answer = .user u ∧ u.id = id

/-- A logout or a disconnect of a connection. -/
def Event.Leaves (e : Event) (connection : String) : Prop :=
  e.operation = .logout connection ∨ e.operation = .disconnect connection

/-- What ends the session of an account on a connection. -/
def Event.Ends (e : Event) (id : Id) (connection : String) : Prop :=
  e.Leaves connection ∨ (∃ other, other ≠ id ∧ e.LogsIn other connection) ∨
    ∃ elsewhere, elsewhere ≠ connection ∧ e.LogsIn id elsewhere

/-- The log has a login of the account on the connection after which nothing ended the session. -/
def LoggedIn (log : List Event) (id : Id) (connection : String) : Prop :=
  ∃ before e after, log = before ++ e :: after ∧ e.LogsIn id connection ∧ ∀ e' ∈ after, ¬ e'.Ends id connection

/-- A successful registration of an account. -/
def Event.Registers (e : Event) (id : Id) : Prop :=
  ∃ username email password u, e.operation = .register username email password ∧ e.answer = .user u ∧ u.id = id

/-- After a log, an event that ends the session of an account: its connection is left, or taken over. -/
def EndsSession (log : List Event) (e : Event) (id : Id) : Prop :=
  ∃ connection, LoggedIn log id connection ∧
    (e.Leaves connection ∨ ∃ other, other ≠ id ∧ e.LogsIn other connection)

/-- After a log, an event at which an account is seen. -/
def Sighted (log : List Event) (e : Event) (id : Id) : Prop :=
  e.Registers id ∨ (∃ connection, e.LogsIn id connection) ∨ EndsSession log e id

/-- The latest event of a log at which an account was seen was at this time. -/
def LastSighting (log : List Event) (id : Id) (time : Instant) : Prop :=
  ∃ before e after, log = before ++ e :: after ∧ Sighted before e id ∧ e.time = time ∧
    ∀ between e' rest, after = between ++ e' :: rest → ¬ Sighted (before ++ e :: between) e' id

/-! ## Logs with one more event -/

/-- An event of a longer log is the last one or an earlier one. -/
private theorem append_eq_split_iff {log before after : List Event} {last e : Event} :
    log ++ [last] = before ++ e :: after ↔
      (before = log ∧ e = last ∧ after = []) ∨ ∃ after', after = after' ++ [last] ∧ log = before ++ e :: after' := by
  constructor
  · intro equal
    rcases List.eq_nil_or_concat after with rfl | ⟨after', x, rfl⟩
    · obtain ⟨rfl, same⟩ := List.append_inj' equal rfl
      cases same
      exact .inl ⟨rfl, rfl, rfl⟩
    · rw [List.concat_eq_append, ← List.cons_append, ← List.append_assoc] at equal
      obtain ⟨rfl, same⟩ := List.append_inj' equal rfl
      cases same
      exact .inr ⟨after', List.concat_eq_append, rfl⟩
  · rintro (⟨rfl, rfl, rfl⟩ | ⟨after', rfl, rfl⟩)
    · rfl
    · simp

theorem loggedIn_append {log : List Event} {e : Event} {id : Id} {connection : String} :
    LoggedIn (log ++ [e]) id connection ↔
      e.LogsIn id connection ∨ (LoggedIn log id connection ∧ ¬ e.Ends id connection) := by
  constructor
  · rintro ⟨before, entry, after, split, entered, quiet⟩
    rcases append_eq_split_iff.1 split with ⟨-, rfl, -⟩ | ⟨after', rfl, rfl⟩
    · exact .inl entered
    · refine .inr ⟨⟨before, entry, after', rfl, entered, fun e' member => ?_⟩, ?_⟩
      · exact quiet e' (List.mem_append_left _ member)
      · exact quiet e (List.mem_append_right _ (List.mem_singleton_self e))
  · rintro (entered | ⟨⟨before, entry, after, rfl, entered, quiet⟩, stays⟩)
    · exact ⟨log, e, [], rfl, entered, by simp⟩
    · refine ⟨before, entry, after ++ [e], by simp, entered, fun e' member => ?_⟩
      rcases List.mem_append.1 member with earlier | last
      · exact quiet e' earlier
      · rw [List.mem_singleton] at last
        exact last ▸ stays

theorem lastSighting_append {log : List Event} {e : Event} {id : Id} {time : Instant} :
    LastSighting (log ++ [e]) id time ↔
      (Sighted log e id ∧ e.time = time) ∨ (¬ Sighted log e id ∧ LastSighting log id time) := by
  constructor
  · rintro ⟨before, entry, after, split, seen, timed, quiet⟩
    rcases append_eq_split_iff.1 split with ⟨rfl, rfl, -⟩ | ⟨after', rfl, rfl⟩
    · exact .inl ⟨seen, timed⟩
    · refine .inr ⟨quiet after' e [] rfl, before, entry, after', rfl, seen, timed, ?_⟩
      rintro between e' rest rfl
      exact quiet between e' (rest ++ [e]) (by simp)
  · rintro (⟨seen, timed⟩ | ⟨unseen, before, entry, after, rfl, seen, timed, quiet⟩)
    · exact ⟨log, e, [], rfl, seen, timed, fun between e' rest split => by simp at split⟩
    · refine ⟨before, entry, after ++ [e], by simp, seen, timed, ?_⟩
      intro between e' rest split
      rcases append_eq_split_iff.1 split with ⟨rfl, rfl, -⟩ | ⟨rest', -, rfl⟩
      · exact unseen
      · exact quiet between e' rest' rfl

/-! ## One operation -/

/-- An event that is no login, logout, disconnect or registration, or one that was refused. -/
def Event.Idle (e : Event) : Prop :=
  (∀ id connection, ¬ e.LogsIn id connection) ∧ (∀ connection, ¬ e.Leaves connection) ∧ ∀ id, ¬ e.Registers id

/-- An operation is a successful login, a logout or disconnect, a successful registration, or it leaves
accounts and sessions alone. -/
theorem perform_sessions (s : Store) (now : Instant) (operation : Operation) :
    (∃ username password connection u s', operation = .login username password connection ∧
      s.login now username password connection = .ok (u, s') ∧ s.perform now operation = (.user u, s')) ∨
    (∃ connection, (operation = .logout connection ∨ operation = .disconnect connection) ∧
      (s.perform now operation).2 = (s.disconnect now connection).2) ∨
    (∃ username email password u s', operation = .register username email password ∧
      s.register now username email password = .ok (u, s') ∧ s.perform now operation = (.user u, s')) ∨
    (Event.Idle ⟨now, operation, (s.perform now operation).1⟩ ∧
      (s.perform now operation).2.users = s.users ∧ (s.perform now operation).2.sessions = s.sessions) := by
  cases operation with
  | login username password connection =>
    cases result : s.login now username password connection with
    | error refusal =>
      refine .inr (.inr (.inr ⟨?_, ?_, ?_⟩))
      · simp [Event.Idle, Event.LogsIn, Event.Leaves, Event.Registers, perform, settle, result]
      · simp [perform, settle, result]
      · simp [perform, settle, result]
    | ok value =>
      exact .inl ⟨username, password, connection, value.1, value.2, rfl, result, by simp [perform, settle, result]⟩
  | logout connection => exact .inr (.inl ⟨connection, .inl rfl, rfl⟩)
  | disconnect connection => exact .inr (.inl ⟨connection, .inr rfl, rfl⟩)
  | register username email password =>
    cases result : s.register now username email password with
    | error refusal =>
      refine .inr (.inr (.inr ⟨?_, ?_, ?_⟩))
      · simp [Event.Idle, Event.LogsIn, Event.Leaves, Event.Registers, perform, settle, result]
      · simp [perform, settle, result]
      · simp [perform, settle, result]
    | ok value =>
      exact .inr (.inr (.inl
        ⟨username, email, password, value.1, value.2, rfl, result, by simp [perform, settle, result]⟩))
  | sendPrivate sender recipient text =>
    have idle : Event.Idle ⟨now, .sendPrivate sender recipient text,
        (s.perform now (.sendPrivate sender recipient text)).1⟩ := by
      simp [Event.Idle, Event.LogsIn, Event.Leaves, Event.Registers]
    refine .inr (.inr (.inr ⟨idle, ?_⟩))
    cases result : s.sendPrivate now sender.id recipient text with
    | error refusal => simp [perform, settle, result]
    | ok value =>
      obtain ⟨-, -, -, -, -, -, -, -, changed⟩ := sendPrivate_ok result
      simp [perform, settle, result, changed, draw]
  | addContact owner target =>
    have idle : Event.Idle ⟨now, .addContact owner target, (s.perform now (.addContact owner target)).1⟩ := by
      simp [Event.Idle, Event.LogsIn, Event.Leaves, Event.Registers]
    refine .inr (.inr (.inr ⟨idle, ?_⟩))
    cases result : s.addContact now owner.id target with
    | error refusal => simp [perform, settle, result]
    | ok value =>
      obtain ⟨_, -, -, ⟨-, changed, -⟩ | ⟨-, -, changed⟩⟩ := addContact_ok result
      · simp [perform, settle, result, changed]
      · simp [perform, settle, result, changed, draw]
  | post _ _ | session _ | user _ | online | history | privateHistory _ _ | contacts _ =>
    exact .inr (.inr (.inr
      ⟨by simp [Event.Idle, Event.LogsIn, Event.Leaves, Event.Registers], rfl, rfl⟩))

theorem logsIn_login {username password : Option Text} {place connection : String} {u : User} {id : Id} :
    Event.LogsIn ⟨now, .login username password place, .user u⟩ id connection ↔
      place = connection ∧ u.id = id := by
  simp only [Event.LogsIn, Operation.login.injEq, Answer.user.injEq]
  constructor
  · rintro ⟨_, _, _, ⟨rfl, rfl, rfl⟩, rfl, rfl⟩
    exact ⟨rfl, rfl⟩
  · rintro ⟨rfl, rfl⟩
    exact ⟨username, password, u, ⟨rfl, rfl, rfl⟩, rfl, rfl⟩

/-- An account is on a connection after an operation if it just logged in there, or if it was there before
and nothing ended that. -/
theorem session_perform_iff (consistent : Consistent s) (operation : Operation) (connection : String) (id : Id) :
    (s.perform now operation).2.sessions.find? connection = some id ↔
      Event.LogsIn ⟨now, operation, (s.perform now operation).1⟩ id connection ∨
        (s.sessions.find? connection = some id ∧
          ¬ Event.Ends ⟨now, operation, (s.perform now operation).1⟩ id connection) := by
  rcases perform_sessions s now operation with
    ⟨username, password, place, u', s', rfl, ok, performed⟩ | ⟨place, left, performed⟩ |
    ⟨username, email, password, u, s', rfl, ok, performed⟩ | ⟨⟨noLogin, noLeave, -⟩, -, performed⟩
  · obtain ⟨u, -, -, -, rfl, -, -⟩ := login_users consistent.toLinked ok
    rw [performed, login_sessions consistent ok, User.onlineOn_id]
    have entered (id : Id) (c : String) :
        Event.LogsIn ⟨now, .login username password place, .user (u.onlineOn now place)⟩ id c ↔
          place = c ∧ u.id = id := logsIn_login
    simp only [Event.Ends, entered, Event.Leaves, reduceCtorEq, or_self, false_or]
    by_cases here : connection = place
    · subst here
      by_cases mine : u.id = id
      · simp [mine]
      · simp [mine]
    · by_cases mine : u.id = id
      · subst mine
        simp [here, Ne.symm here]
      · simp [here, Ne.symm here, mine]
        grind
  · rw [performed, sessions_disconnect consistent.toLinked]
    rcases left with rfl | rfl
    all_goals
      simp only [Event.Ends, Event.LogsIn, Event.Leaves, reduceCtorEq, false_and, exists_false, and_false, or_false,
        false_or, Operation.logout.injEq, Operation.disconnect.injEq]
      by_cases here : connection = place
      · simp [here]
      · simp [here, Ne.symm here]
  · obtain ⟨-, -, -, -, -, -, -, -, -, -, -, rfl⟩ := register_ok ok
    simp [performed, Event.Ends, Event.LogsIn, Event.Leaves, draw]
  · simp [performed, Event.Ends, noLogin, noLeave]

/-! ## Sightings -/

section

variable {log : List Event} {id : Id}

/-- A login is seen by the account itself and by the one that was on the connection. -/
theorem sighted_login {username password : Option Text} {place : String} {u : User} :
    Sighted log ⟨now, .login username password place, .user u⟩ id ↔ u.id = id ∨ LoggedIn log id place := by
  constructor
  · rintro (⟨_, _, _, _, registered, -⟩ | ⟨c, entered⟩ | ⟨c, open_, left | ⟨other, -, entered⟩⟩)
    · cases registered
    · exact .inl (logsIn_login.1 entered).2
    · simp [Event.Leaves] at left
    · obtain ⟨rfl, -⟩ := logsIn_login.1 entered
      exact .inr open_
  · intro seen
    by_cases mine : u.id = id
    · exact .inr (.inl ⟨place, logsIn_login.2 ⟨rfl, mine⟩⟩)
    · have open_ : LoggedIn log id place := seen.resolve_left mine
      exact .inr (.inr ⟨place, open_, .inr ⟨u.id, mine, logsIn_login.2 ⟨rfl, rfl⟩⟩⟩)

/-- A logout or a disconnect is seen by the account that was on the connection. -/
theorem sighted_leave {operation : Operation} {answer : Answer} {place : String}
    (left : operation = .logout place ∨ operation = .disconnect place) :
    Sighted log ⟨now, operation, answer⟩ id ↔ LoggedIn log id place := by
  constructor
  · rintro (⟨_, _, _, _, registered, -⟩ | ⟨_, _, _, _, entered, -⟩ | ⟨c, open_, left' | ⟨_, -, _, _, _, entered, -⟩⟩)
    · rcases left with rfl | rfl <;> cases registered
    · rcases left with rfl | rfl <;> cases entered
    · have same : place = c := by
        rcases left with rfl | rfl <;> simpa [Event.Leaves] using left'
      exact same ▸ open_
    · rcases left with rfl | rfl <;> cases entered
  · intro open_
    exact .inr (.inr ⟨place, open_, .inl left⟩)

/-- A registration is seen by the new account. -/
theorem sighted_register {username email password : Option Text} {u : User} :
    Sighted log ⟨now, .register username email password, .user u⟩ id ↔ u.id = id := by
  constructor
  · rintro (⟨_, _, _, _, -, answered, same⟩ | ⟨_, _, _, _, entered, -⟩ | ⟨c, -, left | ⟨_, -, _, _, _, entered, -⟩⟩)
    · cases answered
      exact same
    · cases entered
    · simp [Event.Leaves] at left
    · cases entered
  · intro mine
    exact .inl ⟨username, email, password, u, rfl, rfl, mine⟩

/-- Nobody is seen at an idle event. -/
theorem Event.Idle.not_sighted {e : Event} (idle : e.Idle) : ¬ Sighted log e id := by
  obtain ⟨noLogin, noLeave, noRegister⟩ := idle
  rintro (registered | ⟨c, entered⟩ | ⟨c, -, left | ⟨other, -, entered⟩⟩)
  · exact noRegister id registered
  · exact noLogin id c entered
  · exact noLeave c left
  · exact noLogin other c entered

/-- An operation sets the time at which an account was last seen exactly when the account is seen. -/
theorem lastSeen_perform (linked : Linked s) (operation : Operation)
    (agree : ∀ connection id, s.sessions.find? connection = some id ↔ LoggedIn log id connection)
    {u' : User} (found' : (s.perform now operation).2.users.find? id = some u') :
    (Sighted log ⟨now, operation, (s.perform now operation).1⟩ id ∧ now = u'.lastSeen) ∨
      (¬ Sighted log ⟨now, operation, (s.perform now operation).1⟩ id ∧
        ∃ u, s.users.find? id = some u ∧ u.lastSeen = u'.lastSeen) := by
  rcases perform_sessions s now operation with
    ⟨username, password, place, v', s', rfl, ok, performed⟩ | ⟨place, left, performed⟩ |
    ⟨username, email, password, v, s', rfl, ok, performed⟩ | ⟨idle, users, -⟩
  · obtain ⟨v, -, -, -, rfl, -, users⟩ := login_users linked ok
    rw [performed] at found' ⊢
    rw [users] at found'
    rw [sighted_login, ← agree, User.onlineOn_id]
    split at found'
    · next mine =>
      cases found'
      exact .inl ⟨.inl mine.symm, rfl⟩
    · next other =>
      split at found'
      · next displaced =>
        obtain ⟨w, -, rfl⟩ := Option.map_eq_some_iff.1 found'
        exact .inl ⟨.inr displaced, rfl⟩
      · next elsewhere =>
        exact .inr ⟨not_or.2 ⟨Ne.symm other, elsewhere⟩, u', found', rfl⟩
  · rw [performed, find?_disconnect linked] at found'
    rw [sighted_leave left, ← agree]
    split at found'
    · next ended =>
      obtain ⟨w, -, rfl⟩ := Option.map_eq_some_iff.1 found'
      exact .inl ⟨ended, rfl⟩
    · next elsewhere => exact .inr ⟨elsewhere, u', found', rfl⟩
  · obtain ⟨-, -, -, -, -, -, -, lastSeen, -, -, -, rfl⟩ := register_ok ok
    rw [performed] at found' ⊢
    rw [sighted_register]
    simp only [Table.find?_insert] at found'
    split at found'
    · next mine =>
      cases found'
      exact .inl ⟨mine.symm, lastSeen.symm⟩
    · next other => exact .inr ⟨Ne.symm other, u', found', rfl⟩
  · rw [users] at found'
    exact .inr ⟨idle.not_sighted, u', found', rfl⟩

end

/-! ## Whole runs -/

/-- After every run, sessions and times of last sight are what the log says. -/
theorem Run.agrees {hasher : Hasher} {maxHistory : Nat} {maxPrivateHistory : Int} {log : List Event}
    (run : Run (.empty hasher maxHistory maxPrivateHistory) log s) (named : Named log) :
    (∀ connection id, s.sessions.find? connection = some id ↔ LoggedIn log id connection) ∧
      ∀ id u, s.users.find? id = some u → LastSighting log id u.lastSeen := by
  induction run with
  | nothing =>
    refine ⟨fun connection id => ?_, fun id u found => ?_⟩
    · constructor
      · intro bound
        simp [empty] at bound
      · rintro ⟨before, e, after, split, -⟩
        simp at split
    · simp [empty] at found
  | @step log s s' now operation answer earlier permitted performed ih =>
    have before : Named log := fun e member => named e (List.mem_append_left _ member)
    have consistent := earlier.consistent (consistent_empty hasher maxHistory maxPrivateHistory) before
    obtain ⟨agree, seen⟩ := ih before
    have answered : (s.perform now operation).1 = answer := by rw [performed]
    have reached : (s.perform now operation).2 = s' := by rw [performed]
    subst answered reached
    refine ⟨fun connection id => ?_, fun id u' found' => ?_⟩
    · rw [loggedIn_append, session_perform_iff consistent, agree]
    · rw [lastSighting_append]
      rcases lastSeen_perform consistent.toLinked operation agree found' with ⟨sighted, timed⟩ | ⟨unseen, u, found, same⟩
      · exact .inl ⟨sighted, timed⟩
      · exact .inr ⟨unseen, same ▸ seen id u found⟩

theorem settle_refused {ε α : Type} {failure : ε → Answer} {answer : α → Answer} {refusal : Refusal}
    (plain : ∀ a, answer a ≠ .refused refusal) {result : Except ε (α × Store)}
    (refused : (s.settle failure answer result).1 = .refused refusal) : (s.settle failure answer result).2 = s := by
  cases result with
  | error _ => rfl
  | ok value => exact absurd refused (plain value.1)

/-- A refused operation leaves the store as it was. -/
theorem perform_refused {operation : Operation} {refusal : Refusal}
    (refused : (s.perform now operation).1 = .refused refusal) : (s.perform now operation).2 = s := by
  have looked (u : Option User) : Answer.ofUser? u ≠ .refused refusal := by cases u <;> simp [Answer.ofUser?]
  cases operation with
  | register _ _ _ | login _ _ _ | sendPrivate _ _ _ | addContact _ _ =>
    simp only [perform] at refused ⊢
    exact settle_refused (by simp) refused
  | logout connection | disconnect connection =>
    simp only [perform] at refused
    exact absurd refused (looked _)
  | post _ _ => cases refused
  | session _ | user _ | online | history | privateHistory _ _ | contacts _ => rfl

theorem Consistent.mem_online_iff (consistent : Consistent s) {name : Text} {u : User}
    (known : s.user? (some name) = some u) : name ∈ s.online ↔ u.connection.isSome = true := by
  obtain ⟨username, id, same, listed, found⟩ := user?_eq_some_iff.1 known
  cases same
  rw [← consistent.online_iff found, Store.mem_online_iff]
  constructor
  · rintro ⟨id', v, there, online, same⟩
    have mine : id' = id := by
      have listed' := (consistent.byUsername name id').2 ⟨v, there, same⟩
      rw [listed, Option.some.injEq] at listed'
      exact listed'.symm
    rw [mine, found, Option.some.injEq] at there
    rwa [there]
  · intro online
    obtain ⟨owner, found', same⟩ := (consistent.byUsername name id).1 listed
    rw [found, Option.some.injEq] at found'
    exact ⟨id, u, found, online, found' ▸ same⟩

/-- After every run from an empty store, the log says who is logged in where: an account is on a connection
exactly when it logged in there and nothing ended that since. It is online exactly when it is on some
connection, which it then shows, and it was last seen at the latest event of its own: its registration, its
logins, and the ends of its sessions. Refused logins, and logouts and disconnects of connections that nobody
is on, change nothing. -/
theorem sessions_follow_log {hasher : Hasher} {maxHistory : Nat} {maxPrivateHistory : Int} {log : List Event}
    (run : Run (.empty hasher maxHistory maxPrivateHistory) log s) (named : Named log) :
    (∀ connection id, (∃ u, s.session? connection = some u ∧ u.id = id) ↔ LoggedIn log id connection) ∧
    (∀ name u, s.user? (some name) = some u →
      (name ∈ s.online ↔ ∃ connection, LoggedIn log u.id connection) ∧
      (∀ connection, LoggedIn log u.id connection → u.connection = some connection) ∧
      LastSighting log u.id u.lastSeen) ∧
    (∀ now username password connection refusal,
      (s.perform now (.login username password connection)).1 = .refused refusal →
        (s.perform now (.login username password connection)).2 = s) ∧
    ∀ now connection, (∀ id, ¬ LoggedIn log id connection) →
      s.perform now (.logout connection) = (.nobody, s) ∧ s.perform now (.disconnect connection) = (.nobody, s) := by
  have consistent := run.consistent (consistent_empty hasher maxHistory maxPrivateHistory) named
  obtain ⟨agree, seen⟩ := run.agrees named
  refine ⟨fun connection id => ?_, ?_, fun now username password connection refusal => perform_refused, ?_⟩
  · rw [← agree]
    constructor
    · rintro ⟨u, here, rfl⟩
      obtain ⟨id, bound, found⟩ := session?_eq_some_iff.1 here
      rw [bound, consistent.keyed found]
    · intro bound
      obtain ⟨u, found, -⟩ := (consistent.session_iff connection id).1 bound
      exact ⟨u, session?_eq_some_iff.2 ⟨id, bound, found⟩, consistent.keyed found⟩
  · intro name u known
    obtain ⟨username, id, -, -, found⟩ := user?_eq_some_iff.1 known
    have keyed := consistent.keyed found
    subst keyed
    have on (connection : String) : LoggedIn log u.id connection ↔ u.connection = some connection := by
      rw [← agree, consistent.bound_iff found]
    refine ⟨?_, fun connection loggedIn => (on connection).1 loggedIn, seen u.id u found⟩
    rw [consistent.mem_online_iff known, Option.isSome_iff_exists]
    exact exists_congr fun connection => (on connection).symm
  · intro now connection nobody
    have unbound : s.sessions.find? connection = none := by
      cases bound : s.sessions.find? connection with
      | none => rfl
      | some id => exact absurd ((agree connection id).1 bound) (nobody id)
    simp [perform, logout, disconnect_unbound unbound, Answer.ofUser?]

theorem sessions_follow_log_of_changing_hands : ∃ log s, Run (.empty .plain 5 5) log s ∧ log.length = 4 ∧
    (LoggedIn log (Id.ofNumber 2) "c" ∧ ¬ LoggedIn log (Id.ofNumber 1) "c") := by
  have run : Run (.empty .plain 5 5) [] (.empty .plain 5 5) := .nothing
  have run := run.extend ⟨1⟩ (.register (some "ann") (some "a@x") (some "secret")) trivial
  have run := run.extend ⟨2⟩ (.register (some "bob") (some "b@x") (some "secret")) trivial
  have run := run.extend ⟨3⟩ (.login (some "ann") (some "secret") "c") trivial
  have run := run.extend ⟨4⟩ (.login (some "bob") (some "secret") "c") trivial
  obtain ⟨sessions, -⟩ := sessions_follow_log run (by decide +kernel)
  have bob := (sessions "c" (Id.ofNumber 2)).1 (Option.map_eq_some_iff.1 (by decide +kernel))
  refine ⟨_, _, run, rfl, bob, fun ann => ?_⟩
  obtain ⟨u, here, first⟩ := (sessions "c" (Id.ofNumber 1)).2 ann
  obtain ⟨v, here', second⟩ := (sessions "c" (Id.ofNumber 2)).2 bob
  rw [here, Option.some.injEq] at here'
  rw [← here', first] at second
  exact absurd (Id.ofNumber_injective second) (by decide)

end Store

end ChatService
