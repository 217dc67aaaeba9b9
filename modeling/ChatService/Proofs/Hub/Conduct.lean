import ChatService.Proofs.Hub.Run

/-!
# What a step of the hub sends

A step is refused, or it posts a message for everybody, or it changes who is online, or it
only answers its caller. `Conduct` lists these cases, each with the store that it leaves
and all that it sends; whatever is said about replies and broadcasts follows from them.
-/

namespace ChatService

/-! ## What is sent -/

namespace Effect

/-- What an effect carries to one connection or to all. -/
def reply? : Effect → Option Reply
  | caller _ r | .to _ r | all r => some r
  | log _ | fetched _ | raised _ _ => none

/-- What is sent among some effects, in order. -/
def sent (effects : List Effect) : List Effect := effects.filter (·.reply?.isSome)

@[simp] theorem sent_nil : sent [] = [] := rfl

@[simp] theorem sent_append (l l' : List Effect) : sent (l ++ l') = sent l ++ sent l' := List.filter_append ..

@[simp] theorem sent_cons (e : Effect) (l : List Effect) :
    sent (e :: l) = if e.reply?.isSome then e :: sent l else sent l := by
  simp only [sent, List.filter_cons]

@[simp] theorem reply?_caller (connection : String) (r : Reply) : (caller connection r).reply? = some r := rfl

@[simp] theorem reply?_to (connection : String) (r : Reply) : (Effect.to connection r).reply? = some r := rfl

@[simp] theorem reply?_all (r : Reply) : (all r).reply? = some r := rfl

@[simp] theorem reply?_log (line : LogLine) : (log line).reply? = none := rfl

@[simp] theorem reply?_fetched (address : String) : (fetched address).reply? = none := rfl

@[simp] theorem reply?_raised (connection message : String) : (raised connection message).reply? = none := rfl

@[simp] theorem sent_map_fetched (addresses : List String) : sent (addresses.map fetched) = [] := by
  induction addresses with
  | nil => rfl
  | cons address rest ih => simp [ih]

/-- What is only reported does not count where only replies do. -/
theorem filterMap_sent {α : Type} {f : Effect → Option α} (replies : ∀ e, e.reply? = none → f e = none)
    (l : List Effect) : (sent l).filterMap f = l.filterMap f := by
  induction l with
  | nil => rfl
  | cons e rest ih =>
    rw [sent_cons]
    split
    · rw [List.filterMap_cons, List.filterMap_cons, ih]
    · next silent => rw [ih, List.filterMap_cons, replies e (by simpa using silent)]

theorem mem_sent_iff {e : Effect} {l : List Effect} : e ∈ sent l ↔ e ∈ l ∧ e.reply?.isSome = true := by
  simp only [sent, List.mem_filter]

end Effect

open Effect (sent)

/-- A reply that concerns its receiver alone and reports no refusal. -/
def Reply.isPersonal : Reply → Bool
  | error .. | chat _ | onlineUsers _ => false
  | _ => true

/-! ## Parts of a step -/

@[simp] theorem ChatLog.sent_append (l : ChatLog) (now : Instant) (record : Instant → Text) :
    sent (l.append now record).2 = [] := by
  unfold ChatLog.append
  split
  · rfl
  · split <;> rfl

/-- A command only reports and asks foreign services. -/
theorem BuiltIn.sent_run (store : Store) (caller : Caller) (command : BuiltIn) (arguments : List Text)
    (state : State) : sent (command.run store caller arguments state).2.2 = [] := by
  cases command with
  | weather =>
    simp only [run, runWeather]
    split
    · simp
    · split <;> simp
  | rates =>
    simp only [run, runRates]
    split
    · simp
    · split
      · split <;> simp
      · split <;> simp
  | time | calculate | joke | contacts | online | help => rfl

theorem BuiltIn.sent_dispatch (store : Store) (caller : Caller) (who text : Text) (state : State) :
    sent (dispatcher.dispatch Effect.log (run store caller) who text state).2.2 = [] := by
  simp only [Dispatcher.dispatch]
  split
  · rfl
  · rfl
  · next handler arguments _ =>
    have quiet := sent_run store caller handler arguments state
    split
    · next performed => simpa [performed] using quiet
    · next performed => simpa [performed] using quiet

/-- What changes a store without touching sessions or the broadcast history. -/
inductive Store.Recorded (s : Store) : Store → Prop
  | nothing : Recorded s s
  | account {now : Instant} {username email password : Option Text} {u : User} {s' : Store}
      (ok : s.register now username email password = .ok (u, s')) : Recorded s s'
  | privateMessage {now : Instant} {sender : Id} {recipient text : Option Text} {m : PrivateMessage} {s' : Store}
      (ok : s.sendPrivate now sender recipient text = .ok (m, s')) : Recorded s s'
  | contact {now : Instant} {owner : Id} {target : Option Text} {new : Bool} {s' : Store}
      (ok : s.addContact now owner target = .ok (new, s')) : Recorded s s'

namespace Store

variable {s s' : Store} {now : Instant} {connection : String}

/-- The account whose session ends is the one that was logged in. -/
theorem disconnect_fst (s : Store) (now : Instant) (connection : String) :
    (s.disconnect now connection).1 = (s.session? connection).map (·.offline now) := by
  cases bound : s.sessions.find? connection with
  | none => simp [disconnect, session?, bound]
  | some id => cases found : s.users.find? id <;> simp [disconnect, session?, bound, found, User.offline]

theorem disconnect_of_session?_some (now : Instant) {u : User} (session : s.session? connection = some u) :
    ∃ s', s.disconnect now connection = (some (u.offline now), s') := by
  have ended := disconnect_fst s now connection
  rw [session, Option.map_some] at ended
  exact ⟨(s.disconnect now connection).2, Prod.ext ended rfl⟩

theorem disconnect_of_session?_none (linked : Linked s) (nobody : s.session? connection = none) :
    s.disconnect now connection = (none, s) := by
  cases bound : s.sessions.find? connection with
  | none => exact disconnect_unbound bound
  | some id =>
    obtain ⟨u, found⟩ := linked.bound bound
    rw [session?_eq_some_iff.2 ⟨id, bound, found⟩] at nobody
    cases nobody

end Store

namespace Hub

variable {hub : Hub} {step : Step}

/-! ## Why a step is refused -/

/-- The reason in an outcome. -/
def refusalOf? {α : Type} : Except Refusal α → Option Refusal
  | .error refusal => some refusal
  | .ok _ => none

/-- The reason for which a registration is refused. -/
def registerRefusal? {α : Type} : Except RegisterFault α → Option Refusal
  | .error (.refused refusal) => some refusal
  | .error (.unencodable _) | .ok _ => none

/-- The reason for which a step is refused. -/
def fault? (hub : Hub) (step : Step) : Option Refusal :=
  let session := hub.store.session? step.connection
  match step.operation with
  | .connect | .disconnect | .heartbeat | .logout | .getHistory => none
  | .message text =>
    if BuiltIn.dispatcher.isCommand (text.getD "") then none
    else if session.isNone then some .loginToSend
    else Store.textFault? (text.getD "")
  | .register username email password => registerRefusal? (hub.store.register step.time username email password)
  | .login username password => refusalOf? (hub.store.login step.time username password step.connection)
  | .sendPrivate recipient text =>
    match session with
    | none => some .notLoggedIn
    | some sender => refusalOf? (hub.store.sendPrivate step.time sender.id recipient text)
  | .getPrivateHistory username =>
    if session.isNone then some .notLoggedIn
    else if (hub.store.user? username).isNone then some (.unknownUser username)
    else none
  | .addContact target =>
    match session with
    | none => some .notLoggedIn
    | some owner => refusalOf? (hub.store.addContact step.time owner.id target)
  | .getContacts => if session.isNone then some .notLoggedIn else none

/-! ## Who is online -/

/-- The step is a login that the store accepts. -/
def LogsIn (hub : Hub) (step : Step) : Prop :=
  ∃ username password u s', step.operation = .login username password ∧
    hub.store.login step.time username password step.connection = .ok (u, s')

/-- The step is a logout or a disconnect of a connection that has a session. -/
def EndsSession (hub : Hub) (step : Step) : Prop :=
  (step.operation = .logout ∨ step.operation = .disconnect) ∧
    ∃ u, hub.store.session? step.connection = some u

/-- The step begins or ends a session. -/
def MovesSession (hub : Hub) (step : Step) : Prop := hub.LogsIn step ∨ hub.EndsSession step

/-- The message that a step posts for everybody. -/
def posted? (hub : Hub) (step : Step) : Option Message :=
  match step.operation with
  | .message text => (hub.message step.time step.connection text).value
  | _ => none

/-! ## The cases -/

/-- The cases of a step, each with what it posts, the hub that it leaves, and all that it sends. -/
inductive Conduct (hub : Hub) (step : Step) : Option Message → Hub → List Effect → Prop
  | refused {refusal : Refusal} (fault : hub.fault? step = some refusal) (calm : ¬ hub.MovesSession step) :
      Conduct hub step none hub [.caller step.connection (.ofFailure refusal.failure)]
  /-- The caller gets an answer, and at most one other connection the same one. -/
  | answered {hub' : Hub} {reply : Reply} {others : List Effect} (fine : hub.fault? step = none)
      (calm : ¬ hub.MovesSession step) (recorded : hub.store.Recorded hub'.store)
      (personal : reply.isPersonal = true) (delivered : others = [] ∨ ∃ other, others = [.to other reply]) :
      Conduct hub step none hub' (.caller step.connection reply :: others)
  /-- Nothing is sent: a connection without a session closes, or a registration ends in an error. -/
  | silent (fine : hub.fault? step = none) (calm : ¬ hub.MovesSession step) : Conduct hub step none hub []
  | posted {hub' : Hub} {u : User} {text : Text} {m : Message} (fine : hub.fault? step = none)
      (calm : ¬ hub.MovesSession step) (kept : hub.store.post step.time u.username text = (m, hub'.store)) :
      Conduct hub step (some m) hub' [.all (.chat m)]
  | loggedIn {hub' : Hub} {username password : Option Text} {u : User} (fine : hub.fault? step = none)
      (asked : step.operation = .login username password)
      (ok : hub.store.login step.time username password step.connection = .ok (u, hub'.store)) :
      Conduct hub step none hub' [.caller step.connection (.loginSuccess u), .all (.onlineUsers hub'.store.online)]
  /-- A session ends; only a logout is acknowledged. -/
  | left {hub' : Hub} {first : List Effect} (fine : hub.fault? step = none) (ends : hub.EndsSession step)
      (ended : hub'.store = (hub.store.disconnect step.time step.connection).2)
      (acknowledged : first = [] ∨ first = [.caller step.connection .logoutSuccess]) :
      Conduct hub step none hub' (first ++ [.all (.onlineUsers hub'.store.online)])

/-- What a step does is one of the cases. -/
def Conducted (hub : Hub) (step : Step) : Prop :=
  Conduct hub step (hub.posted? step) (hub.perform step).hub (sent (hub.perform step).effects)

section

variable {now : Instant} {connection : String}

/-- Only a login, a logout and a disconnect can move a session. -/
theorem not_movesSession {operation : Operation} (login : ∀ username password, operation ≠ .login username password)
    (logout : operation ≠ .logout) (disconnect : operation ≠ .disconnect) :
    ¬ hub.MovesSession ⟨now, connection, operation⟩ := by
  rintro (⟨username, password, -, -, asked, -⟩ | ⟨asked | asked, -⟩)
  · exact login username password asked
  · exact logout asked
  · exact disconnect asked

theorem conduct_message (text : Option Text) : hub.Conducted ⟨now, connection, .message text⟩ := by
  have calm : ¬ hub.MovesSession ⟨now, connection, .message text⟩ := not_movesSession (by simp) (by simp) (by simp)
  by_cases called : BuiltIn.dispatcher.isCommand (text.getD "")
  · simp only [Conducted, posted?, perform, Done.of, Hub.message, called, if_true, command, Effect.sent_append,
      BuiltIn.sent_dispatch, List.nil_append]
    exact .answered (by simp [fault?, called]) calm .nothing rfl (.inl rfl)
  · simp only [Conducted, posted?, perform, Done.of, Hub.message, called, Bool.false_eq_true, if_false]
    cases session : hub.store.session? connection with
    | none => exact .refused (by simp [fault?, called, session]) calm
    | some u =>
      cases checked : Store.textFault? (text.getD "") with
      | some refusal => exact .refused (by simp [fault?, called, session, checked]) calm
      | none =>
        simp only [Effect.sent_append, Effect.sent_cons, ChatLog.sent_append]
        exact .posted (by simp [fault?, called, session, checked]) calm rfl

theorem conduct_register (username email password : Option Text) :
    hub.Conducted ⟨now, connection, .register username email password⟩ := by
  have calm : ¬ hub.MovesSession ⟨now, connection, .register username email password⟩ :=
    not_movesSession (by simp) (by simp) (by simp)
  simp only [Conducted, posted?, perform, Done.of, Hub.register]
  cases result : hub.store.register now username email password with
  | error fault =>
    cases fault with
    | refused refusal => exact .refused (by simp [fault?, result, registerRefusal?]) calm
    | unencodable fault => exact .silent (by simp [fault?, result, registerRefusal?]) calm
  | ok value => exact .answered (by simp [fault?, result, registerRefusal?]) calm (.account result) rfl (.inl rfl)

theorem conduct_login (username password : Option Text) :
    hub.Conducted ⟨now, connection, .login username password⟩ := by
  simp only [Conducted, posted?, perform, Done.of, Hub.login]
  cases result : hub.store.login now username password connection with
  | error refusal =>
    exact .refused (by simp [fault?, result, refusalOf?]) (by simp [MovesSession, LogsIn, EndsSession, result])
  | ok value => exact .loggedIn (by simp [fault?, result, refusalOf?]) rfl result

theorem conduct_logout (linked : hub.store.Linked) : hub.Conducted ⟨now, connection, .logout⟩ := by
  have noLogin : ¬ hub.LogsIn ⟨now, connection, .logout⟩ := by simp [LogsIn]
  simp only [Conducted, posted?, perform, Done.of, Hub.logout, Store.logout]
  cases session : hub.store.session? connection with
  | none =>
    rw [Store.disconnect_of_session?_none linked session]
    exact .answered rfl (by simp [MovesSession, noLogin, EndsSession, session]) .nothing rfl (.inl rfl)
  | some u =>
    obtain ⟨store, result⟩ := Store.disconnect_of_session?_some now session
    rw [result]
    exact .left rfl ⟨.inl rfl, u, session⟩ (by rw [result]) (.inr rfl)

theorem conduct_disconnect (linked : hub.store.Linked) : hub.Conducted ⟨now, connection, .disconnect⟩ := by
  have noLogin : ¬ hub.LogsIn ⟨now, connection, .disconnect⟩ := by simp [LogsIn]
  simp only [Conducted, posted?, perform, Done.of, Hub.disconnect]
  cases session : hub.store.session? connection with
  | none =>
    rw [Store.disconnect_of_session?_none linked session]
    exact .silent rfl (by simp [MovesSession, noLogin, EndsSession, session])
  | some u =>
    obtain ⟨store, result⟩ := Store.disconnect_of_session?_some now session
    rw [result]
    exact .left rfl ⟨.inr rfl, u, session⟩ (by rw [result]) (.inl rfl)

theorem deliver_cases (store : Store) (connection : String) (recipient : Text) (d : Delivery) :
    deliver store connection recipient d = [] ∨
      ∃ other, deliver store connection recipient d = [.to other (.privateMessage d)] := by
  unfold deliver
  split
  · exact .inl rfl
  · split
    · split
      · exact .inr ⟨_, rfl⟩
      · exact .inl rfl
    · exact .inl rfl

theorem sent_deliver (store : Store) (connection : String) (recipient : Text) (d : Delivery) :
    sent (deliver store connection recipient d) = deliver store connection recipient d := by
  rcases deliver_cases store connection recipient d with none | ⟨other, one⟩
  · rw [none, Effect.sent_nil]
  · rw [one]
    rfl

theorem conduct_sendPrivate (recipient text : Option Text) :
    hub.Conducted ⟨now, connection, .sendPrivate recipient text⟩ := by
  have calm : ¬ hub.MovesSession ⟨now, connection, .sendPrivate recipient text⟩ :=
    not_movesSession (by simp) (by simp) (by simp)
  simp only [Conducted, posted?, perform, Done.of, Hub.sendPrivate]
  cases session : hub.store.session? connection with
  | none => exact .refused (by simp [fault?, session]) calm
  | some sender =>
    simp only
    cases result : hub.store.sendPrivate now sender.id recipient text with
    | error refusal => exact .refused (by simp [fault?, session, result, refusalOf?]) calm
    | ok value =>
      simp only [List.cons_append, Effect.sent_cons, Effect.sent_append, ChatLog.sent_append, List.nil_append, sent_deliver]
      exact .answered (by simp [fault?, session, result, refusalOf?]) calm (.privateMessage result) rfl
        (deliver_cases _ _ _ _)

theorem conduct_getPrivateHistory (username : Option Text) :
    hub.Conducted ⟨now, connection, .getPrivateHistory username⟩ := by
  have calm : ¬ hub.MovesSession ⟨now, connection, .getPrivateHistory username⟩ :=
    not_movesSession (by simp) (by simp) (by simp)
  simp only [Conducted, posted?, perform, Done.of, Hub.getPrivateHistory]
  cases session : hub.store.session? connection with
  | none => exact .refused (by simp [fault?, session]) calm
  | some u =>
    cases found : hub.store.user? username with
    | none => exact .refused (by simp [fault?, session, found]) calm
    | some other => exact .answered (by simp [fault?, session, found]) calm .nothing rfl (.inl rfl)

theorem conduct_addContact (target : Option Text) : hub.Conducted ⟨now, connection, .addContact target⟩ := by
  have calm : ¬ hub.MovesSession ⟨now, connection, .addContact target⟩ :=
    not_movesSession (by simp) (by simp) (by simp)
  simp only [Conducted, posted?, perform, Done.of, Hub.addContact]
  cases session : hub.store.session? connection with
  | none => exact .refused (by simp [fault?, session]) calm
  | some owner =>
    simp only
    cases result : hub.store.addContact now owner.id target with
    | error refusal => exact .refused (by simp [fault?, session, result, refusalOf?]) calm
    | ok value =>
      have quiet : sent (if value.1 then [Effect.log (.info (owner.username ++ " added " ++ optionalText target ++
          " to contacts"))] else []) = [] := by split <;> rfl
      simp only [Effect.sent_append, quiet, List.nil_append]
      exact .answered (by simp [fault?, session, result, refusalOf?]) calm (.contact result) rfl (.inl rfl)

theorem conduct_getContacts : hub.Conducted ⟨now, connection, .getContacts⟩ := by
  have calm : ¬ hub.MovesSession ⟨now, connection, .getContacts⟩ := not_movesSession (by simp) (by simp) (by simp)
  simp only [Conducted, posted?, perform, Done.of, Hub.getContacts]
  cases session : hub.store.session? connection with
  | none => exact .refused (by simp [fault?, session]) calm
  | some owner => exact .answered (by simp [fault?, session]) calm .nothing rfl (.inl rfl)

end

theorem conduct (linked : hub.store.Linked) (step : Step) : hub.Conducted step := by
  obtain ⟨now, connection, operation⟩ := step
  cases operation with
  | connect | heartbeat | getHistory =>
    exact .answered rfl (not_movesSession (by simp) (by simp) (by simp)) .nothing rfl (.inl rfl)
  | disconnect => exact conduct_disconnect linked
  | message text => exact conduct_message text
  | register username email password => exact conduct_register username email password
  | login username password => exact conduct_login username password
  | logout => exact conduct_logout linked
  | sendPrivate recipient text => exact conduct_sendPrivate recipient text
  | getPrivateHistory username => exact conduct_getPrivateHistory username
  | addContact target => exact conduct_addContact target
  | getContacts => exact conduct_getContacts

end Hub

end ChatService
