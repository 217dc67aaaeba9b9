import ChatService.Proofs.Hub.Commands
import ChatService.Proofs.Store.Accounts
import ChatService.Proofs.Store.Strict

/-!
# What the hub raises

The operations of the hub once more, where look-ups under identities can fail and a
refusal is raised until the operation catches it. Refusals are the only failures that are
caught, outside of commands. On every run these operations give what the hub gives, but for
one failure that gets out: that a password which is registered cannot be encoded.
-/

namespace ChatService

open Effect (sent)

namespace Hub

/-! ## The operations -/

namespace Strict

/-- Catches a refusal. Anything else that is raised goes on. -/
def caught {α : Type} (body : Except Raised α) : Except Raised (Except Refusal α) :=
  match body with
  | .ok a => .ok (.ok a)
  | .error (.refused refusal) => .ok (.error refusal)
  | .error raised => .error raised

/-- The account that is logged in on a connection. -/
def requireUser (hub : Hub) (connection : String) : Except Raised User := do
  match ← Store.Strict.session? hub.store connection with
  | some user => return user
  | none => .error (.refused .notLoggedIn)

def disconnect (hub : Hub) (now : Instant) (connection : String) : Except Raised (Outcome Unit) := do
  match ← Store.Strict.disconnect hub.store now connection with
  | (none, store) => return ⟨(), { hub with store }, [.log (.info ("Connection " ++ connection ++ " closed"))]⟩
  | (some user, store) =>
    return ⟨(), { hub with store },
      .log (.info ("User " ++ user.username ++ " (connection_id=" ++ connection ++ ") disconnected")) ::
        presence store⟩

def contactsReply (store : Store) (user : Option User) : Except Raised Text :=
  match user with
  | none => .error (.refused .loginToSeeContacts)
  | some user => do
    match ← Store.Strict.contactsOf store user.id with
    | [] => return "📇 You have no contacts yet"
    | entries => return Text.join "\n" ("📇 Contacts:" :: entries.map BuiltIn.contactLine)

/-- Runs a command. Only the contacts are looked up under identities. -/
def run (store : Store) (caller : BuiltIn.Caller) (command : BuiltIn) (arguments : List Text) (s : BuiltIn.State) :
    Except Raised Text × BuiltIn.State × List Effect :=
  if command = .contacts then (contactsReply store caller.user, s, [])
  else
    let (reply, s', effects) := command.run store caller arguments s
    (reply.mapError .other, s', effects)

/-- Runs a text as a command. Whatever the command raises is caught, and its text is kept. -/
def command (hub : Hub) (now : Instant) (connection : String) (user : Option User) (text : Text) :
    Outcome (Option Message) :=
  let who := (user.map (·.username)).getD Dispatcher.anonymous
  let handle := fun command arguments s =>
    let (reply, s', effects) := run hub.store ⟨user, now⟩ command arguments s
    (reply.mapError Raised.message, s', effects)
  let (reply, commands, effects) := BuiltIn.dispatcher.dispatch Effect.log handle who text hub.commands
  ⟨none, { hub with commands }, effects ++ [.caller connection (.system reply now)]⟩

/-- The account that posts a text, if it may. -/
def poster (user : Option User) (text : Text) : Except Raised User :=
  match user with
  | none => .error (.refused .loginToSend)
  | some user =>
    match Store.textFault? text with
    | some refusal => .error (.refused refusal)
    | none => .ok user

def message (hub : Hub) (now : Instant) (connection : String) (text : Option Text) :
    Except Raised (Outcome (Option Message)) := do
  let text := text.getD ""
  let user ← Store.Strict.session? hub.store connection
  if BuiltIn.dispatcher.isCommand text then return command hub now connection user text
  else
    match ← caught (poster user text) with
    | .error refusal => return hub.refuse connection refusal none []
    | .ok user =>
      let (message, store) := hub.store.post now user.username text
      let (chatLog, logged) := hub.chatLog.append now (ChatLog.chatLine user.username text)
      return ⟨some message, { hub with store, chatLog },
        .log (.info ("Chat from " ++ user.username ++ ": " ++ text)) :: logged ++ [.all (.chat message)]⟩

def register (hub : Hub) (now : Instant) (connection : String) (username email password : Option Text) :
    Except Raised (Outcome (Option User)) := do
  match ← caught ((hub.store.register now username email password).mapError Raised.ofRegisterFault) with
  | .error refusal => return hub.refuse connection refusal none []
  | .ok (user, store) =>
    return ⟨some user, { hub with store },
      [.log (.info ("User '" ++ user.username ++ "' registered from connection_id=" ++ connection)),
       .caller connection (.registerSuccess user)]⟩

def login (hub : Hub) (now : Instant) (connection : String) (username password : Option Text) :
    Except Raised (Outcome (Option User)) := do
  match ← caught (Store.Strict.login hub.store now username password connection) with
  | .error refusal =>
    return hub.refuse connection refusal none
      [.log (.warning ("Failed login for '" ++ optionalText username ++ "' on connection_id=" ++ connection))]
  | .ok (user, store) =>
    return ⟨some user, { hub with store },
      .log (.info ("User '" ++ user.username ++ "' logged in on connection_id=" ++ connection)) ::
        .caller connection (.loginSuccess user) :: presence store⟩

def logout (hub : Hub) (now : Instant) (connection : String) : Except Raised (Outcome (Option User)) := do
  match ← Store.Strict.disconnect hub.store now connection with
  | (none, store) => return ⟨none, { hub with store }, [.caller connection .logoutSuccess]⟩
  | (some user, store) =>
    return ⟨some user, { hub with store },
      .log (.info ("User '" ++ user.username ++ "' logged out from connection_id=" ++ connection)) ::
        .caller connection .logoutSuccess :: presence store⟩

/-- The length of a text that must not be missing. -/
def lengthOf : Option Text → Except Raised Nat
  | some text => .ok text.length
  | none => .error (.other "a missing text has no length")

def deliver (store : Store) (connection : String) (recipient : Option Text) (d : Delivery) :
    Except Raised (List Effect) := do
  match ← Store.Strict.user? store recipient with
  | none => return []
  | some user =>
    match user.connection with
    | some other => return if user.isOnline && other ≠ connection then [.to other (.privateMessage d)] else []
    | none => return []

def sendPrivate (hub : Hub) (now : Instant) (connection : String) (recipient text : Option Text) :
    Except Raised (Outcome (Option PrivateMessage)) := do
  let tried ← caught do
    let sender ← requireUser hub connection
    let done ← Raised.lift (hub.store.sendPrivate now sender.id recipient text)
    return (sender, done)
  match tried with
  | .error refusal => return hub.refuse connection refusal none []
  | .ok (sender, message, store) =>
    let length ← lengthOf text
    let name := optionalText recipient
    let d := delivery message sender.username name
    let (chatLog, logged) := hub.chatLog.append now (ChatLog.privateLine sender.username name length)
    let delivered ← deliver store connection recipient d
    return ⟨some message, { hub with store, chatLog },
      .log (.info ("📨 PRIVATE from " ++ sender.username ++ " to " ++ name ++ " (" ++ toString length ++ " chars)")) ::
        logged ++ .caller connection (.privateMessage d) :: delivered⟩

/-- The names of two accounts; one name if they are the same. -/
def names (a b : User) : Table Id Text := (Table.empty.insert a.id a.username).insert b.id b.username

/-- The messages between two accounts, with the names of both parties looked up. -/
def deliveries (a b : User) (messages : List PrivateMessage) : Except Raised (List Delivery) :=
  messages.mapM fun m => return delivery m (← (names a b).get m.sender) (← (names a b).get m.recipient)

def getPrivateHistory (hub : Hub) (connection : String) (username : Option Text) :
    Except Raised (Outcome (Option (List PrivateMessage))) := do
  let tried ← caught do
    let user ← requireUser hub connection
    match ← Store.Strict.user? hub.store username with
    | some other => return (user, other)
    | none => .error (.refused (.unknownUser username))
  match tried with
  | .error refusal => return hub.refuse connection refusal none []
  | .ok (user, other) =>
    let messages := hub.store.privateHistory user.id other.id
    return ⟨some messages, hub,
      [.caller connection (.privateHistory other.username (← deliveries user other messages))]⟩

def addContact (hub : Hub) (now : Instant) (connection : String) (username : Option Text) :
    Except Raised (Outcome Bool) := do
  let tried ← caught do
    let owner ← requireUser hub connection
    let done ← Raised.lift (hub.store.addContact now owner.id username)
    return (owner, done)
  match tried with
  | .error refusal => return hub.refuse connection refusal false []
  | .ok (owner, added, store) =>
    let name := optionalText username
    return ⟨true, { hub with store },
      (if added then [.log (.info (owner.username ++ " added " ++ name ++ " to contacts"))] else []) ++
        [.caller connection (.contactAdded name)]⟩

def getContacts (hub : Hub) (connection : String) : Except Raised (Outcome (Option (List ContactStatus))) := do
  match ← caught (requireUser hub connection) with
  | .error refusal => return hub.refuse connection refusal none []
  | .ok owner =>
    let entries ← Store.Strict.contactsOf hub.store owner.id
    return ⟨some entries, hub, [.caller connection (.contacts entries)]⟩

/-- Carries out a step, unless something is raised. -/
def perform (hub : Hub) (step : Step) : Except Raised Done :=
  match step.operation with
  | .connect => .ok (.of (hub.connect step.connection))
  | .disconnect => Done.of <$> disconnect hub step.time step.connection
  | .heartbeat => .ok (.of (hub.heartbeat step.time step.connection))
  | .message text => Done.of <$> message hub step.time step.connection text
  | .register username email password => Done.of <$> register hub step.time step.connection username email password
  | .login username password => Done.of <$> login hub step.time step.connection username password
  | .logout => Done.of <$> logout hub step.time step.connection
  | .sendPrivate recipient text => Done.of <$> sendPrivate hub step.time step.connection recipient text
  | .getPrivateHistory username => Done.of <$> getPrivateHistory hub step.connection username
  | .addContact username => Done.of <$> addContact hub step.time step.connection username
  | .getContacts => Done.of <$> getContacts hub step.connection
  | .getHistory => .ok (.of (hub.getHistory step.connection))

/-- Carries out one step after the other, until something is raised. -/
def performAll (hub : Hub) : List Step → Except Raised (List Done)
  | [] => .ok []
  | step :: rest => do
    let done ← perform hub step
    return done :: (← performAll done.hub rest)

end Strict

/-! ## They do what the hub does -/

/-- A step that registers an account whose password cannot be encoded, with arguments that are acceptable. -/
def Step.Raises (step : Step) (fault : EncodeFault) : Prop :=
  ∃ username email password, step.operation = .register username email password ∧
    Store.Acceptable username email password ∧ Password.digest? (password.getD "") = .error fault

section

open Strict

variable {hub : Hub} (linked : hub.store.Linked) (now : Instant) (connection : String)

theorem caught_lift {α : Type} (result : Except Refusal α) : caught (Raised.lift result) = .ok result := by
  cases result <;> rfl

/-- A registration lets out nothing but that its password cannot be encoded. -/
theorem strict_register (hub : Hub) (username email password : Option Text) :
    Strict.register hub now connection username email password =
      match hub.store.register now username email password with
      | .error (.unencodable fault) => .error (.other fault.message)
      | _ => .ok (hub.register now connection username email password) := by
  rw [Strict.register, Hub.register]
  rcases hub.store.register now username email password with (refusal | fault) | ⟨user, store⟩ <;> rfl

theorem strict_deliver {store : Store} (linked : store.Linked) (recipient : Text) (d : Delivery) :
    Strict.deliver store connection (some recipient) d = .ok (Hub.deliver store connection recipient d) := by
  rw [Strict.deliver, Store.strict_user? linked, Hub.deliver]
  cases store.user? recipient with
  | none => rfl
  | some user =>
    simp only [Bind.bind, Except.bind]
    cases user.connection <;> rfl

theorem get_names {a b : User} {id : Id} (party : id = a.id ∨ id = b.id) :
    (names a b).get id = .ok (nameOf a b id) := by
  apply Table.get_of_find?
  rw [names, Table.find?_insert, nameOf]
  split
  · rfl
  · next different => rw [Table.find?_insert, if_pos (party.resolve_right different)]

/-- The parties of the messages between two accounts are these two. -/
theorem strict_deliveries {a b : User} {messages : List PrivateMessage}
    (parties : ∀ m ∈ messages, (m.sender = a.id ∨ m.sender = b.id) ∧ (m.recipient = a.id ∨ m.recipient = b.id)) :
    deliveries a b messages =
      .ok (messages.map fun m => delivery m (nameOf a b m.sender) (nameOf a b m.recipient)) := by
  rw [deliveries]
  induction messages with
  | nil => rfl
  | cons m rest ih =>
    obtain ⟨sender, recipient⟩ := parties m List.mem_cons_self
    rw [List.mapM_cons, ih fun m member => parties m (List.mem_cons_of_mem _ member), get_names sender,
      get_names recipient]
    rfl

include linked

theorem strict_disconnect : Strict.disconnect hub now connection = .ok (hub.disconnect now connection) := by
  rw [Strict.disconnect, Store.strict_disconnect linked, Hub.disconnect]
  rcases hub.store.disconnect now connection with ⟨- | user, store⟩ <;> rfl

theorem strict_logout : Strict.logout hub now connection = .ok (hub.logout now connection) := by
  rw [Strict.logout, Store.strict_disconnect linked, Hub.logout, Store.logout]
  rcases hub.store.disconnect now connection with ⟨- | user, store⟩ <;> rfl

/-- Whatever a command raises, its text is that of the command's failure. -/
theorem strict_run (caller : BuiltIn.Caller) (command : BuiltIn) (arguments : List Text) (s : BuiltIn.State) :
    ((run hub.store caller command arguments s).1.mapError Raised.message,
      (run hub.store caller command arguments s).2) = BuiltIn.run hub.store caller command arguments s := by
  have back (ending : BuiltIn.Ending) : ((ending.1.mapError Raised.other).mapError Raised.message, ending.2) = ending := by
    rcases ending with ⟨- | reply, rest⟩ <;> rfl
  by_cases contacts : command = .contacts
  · subst contacts
    simp only [run, if_true, BuiltIn.run, contactsReply, BuiltIn.contactsReply]
    cases caller.user with
    | none => rfl
    | some user =>
      simp only [Store.strict_contactsOf linked]
      cases hub.store.contactsOf user.id <;> rfl
  · simp only [run, if_neg contacts]
    exact back (BuiltIn.run hub.store caller command arguments s)

theorem strict_command (user : Option User) (text : Text) :
    Strict.command hub now connection user text = hub.command now connection user text := by
  have same : (fun command arguments s =>
      ((run hub.store ⟨user, now⟩ command arguments s).1.mapError Raised.message,
        (run hub.store ⟨user, now⟩ command arguments s).2)) = BuiltIn.run hub.store ⟨user, now⟩ := by
    funext command arguments s
    exact strict_run linked ⟨user, now⟩ command arguments s
  simp only [Strict.command, Hub.command, ← same]

theorem strict_message (text : Option Text) :
    Strict.message hub now connection text = .ok (hub.message now connection text) := by
  simp only [Strict.message, Store.strict_session? linked, strict_command linked, Hub.message, Bind.bind, Except.bind]
  split
  · rfl
  · cases hub.store.session? connection with
    | none => rfl
    | some user =>
      simp only [poster]
      cases Store.textFault? (text.getD "") <;> rfl

theorem strict_login (username password : Option Text) :
    Strict.login hub now connection username password = .ok (hub.login now connection username password) := by
  rw [Strict.login, Store.strict_login linked, caught_lift, Hub.login]
  cases hub.store.login now username password connection <;> rfl

theorem strict_requireUser :
    requireUser hub connection =
      match hub.store.session? connection with
      | some user => .ok user
      | none => .error (.refused .notLoggedIn) := by
  rw [requireUser, Store.strict_session? linked]
  cases hub.store.session? connection <;> rfl

/-- A private message that the store accepts has a recipient and a text, so neither is missing behind it. -/
theorem strict_sendPrivate (recipient text : Option Text) :
    Strict.sendPrivate hub now connection recipient text = .ok (hub.sendPrivate now connection recipient text) := by
  rw [Strict.sendPrivate, strict_requireUser linked, Hub.sendPrivate]
  cases session : hub.store.session? connection with
  | none => rfl
  | some sender =>
    simp only [Bind.bind, Except.bind]
    cases result : hub.store.sendPrivate now sender.id recipient text with
    | error refusal => rfl
    | ok done =>
      obtain ⟨message, store⟩ := done
      have linked' := Store.linked_sendPrivate linked ⟨sender, find?_of_session? linked session⟩ result
      obtain ⟨fine, listed, -, -, -, same, -⟩ := Store.sendPrivate_ok result
      obtain ⟨name, rfl, -⟩ := Option.bind_eq_some_iff.1 listed
      cases text with
      | none => cases fine
      | some text =>
        have delivered := strict_deliver connection linked' name (delivery message sender.username name)
        simp only [Raised.lift, Except.mapError, pure, Except.pure, caught, lengthOf, optionalText, Option.getD_some,
          delivered, same]

theorem strict_getPrivateHistory (username : Option Text) :
    Strict.getPrivateHistory hub connection username = .ok (hub.getPrivateHistory connection username) := by
  rw [Strict.getPrivateHistory, strict_requireUser linked, Store.strict_user? linked, Hub.getPrivateHistory]
  cases session : hub.store.session? connection with
  | none => rfl
  | some user =>
    cases found : hub.store.user? username with
    | none => rfl
    | some other =>
      have named := strict_deliveries (linked.resolves.parties user.id other.id)
      simp only [Bind.bind, Except.bind, pure, Except.pure, caught, named]

theorem strict_addContact (username : Option Text) :
    Strict.addContact hub now connection username = .ok (hub.addContact now connection username) := by
  rw [Strict.addContact, strict_requireUser linked, Hub.addContact]
  cases hub.store.session? connection with
  | none => rfl
  | some owner =>
    simp only [Bind.bind, Except.bind]
    cases hub.store.addContact now owner.id username <;> rfl

theorem strict_getContacts : Strict.getContacts hub connection = .ok (hub.getContacts connection) := by
  rw [Strict.getContacts, strict_requireUser linked, Hub.getContacts]
  cases hub.store.session? connection with
  | none => rfl
  | some owner =>
    simp only [Bind.bind, Except.bind, caught, Store.strict_contactsOf linked]
    rfl

/-- A step that does not raise does what the hub does. -/
theorem strict_perform {step : Step} (quiet : ∀ fault, ¬ step.Raises fault) :
    Strict.perform hub step = .ok (hub.perform step) := by
  obtain ⟨now, connection, operation⟩ := step
  cases operation with
  | connect | heartbeat | getHistory => rfl
  | disconnect => simp only [Strict.perform, strict_disconnect linked]; rfl
  | message text => simp only [Strict.perform, strict_message linked]; rfl
  | register username email password =>
    have encoded (fault : EncodeFault) : hub.store.register now username email password ≠ .error (.unencodable fault) :=
      fun failed => quiet fault ⟨username, email, password, rfl, Store.register_unencodable_iff.1 failed⟩
    simp only [Strict.perform, strict_register]
    rfl
  | login username password => simp only [Strict.perform, strict_login linked]; rfl
  | logout => simp only [Strict.perform, strict_logout linked]; rfl
  | sendPrivate recipient text => simp only [Strict.perform, strict_sendPrivate linked]; rfl
  | getPrivateHistory username => simp only [Strict.perform, strict_getPrivateHistory linked]; rfl
  | addContact username => simp only [Strict.perform, strict_addContact linked]; rfl
  | getContacts => simp only [Strict.perform, strict_getContacts linked]; rfl

omit linked in
theorem strict_perform_of_raises (hub : Hub) {step : Step} {fault : EncodeFault} (raises : step.Raises fault) :
    Strict.perform hub step = .error (.other fault.message) := by
  obtain ⟨now, connection, operation⟩ := step
  obtain ⟨username, email, password, registers, unencodable⟩ := raises
  cases registers
  have failed : hub.store.register now username email password = .error (.unencodable fault) :=
    Store.register_unencodable_iff.2 unencodable
  simp only [Strict.perform, strict_register, failed]
  rfl

/-- A run gets to its end and does what the hub does, unless one of its steps raises. -/
theorem strict_performAll (steps : List Step) :
    (Strict.performAll hub steps = .ok ((hub.turns steps).map Turn.done) ↔
      ∀ step ∈ steps, ∀ fault, ¬ step.Raises fault) := by
  induction steps generalizing hub with
  | nil => exact iff_of_true rfl (by simp)
  | cons step rest ih =>
    rw [List.forall_mem_cons]
    by_cases quiet : ∀ fault, ¬ step.Raises fault
    · rw [and_iff_right quiet, ← ih (linked_perform linked step)]
      simp only [Strict.performAll, strict_perform linked quiet, Bind.bind, Except.bind]
      cases Strict.performAll (hub.perform step).hub rest with
      | error raised => exact iff_of_false nofun nofun
      | ok dones =>
        simp only [pure, Except.pure, Except.ok.injEq, turns, List.map_cons, List.cons.injEq]
        exact and_iff_right rfl
    · simp only [not_forall, not_not] at quiet
      obtain ⟨fault, raises⟩ := quiet
      simp only [Strict.performAll, strict_perform_of_raises hub raises, Bind.bind, Except.bind]
      exact iff_of_false nofun fun all => all.1 fault raises

end

/-- What the hub raises. With look-ups that can fail and refusals that are raised, an operation of a hub in any state
that a run leads to raises exactly if it registers an account with acceptable arguments whose password cannot be
encoded, and then it raises just that. Otherwise it does what the hub does; so a run without such a registration gets
to its end and does the same. For whatever is looked up under an identity is there, and each refusal is caught by the
operation that it belongs to. Every text that is a command is answered by a text, also if the command raises
something. -/
theorem raised_only_by_unencodable_passwords (hasher : Hasher) (maxHistory : Nat) (maxPrivateHistory : Int)
    (cache : Rates.Cache) (surroundings : BuiltIn.Surroundings) (chatLog : ChatLog) (steps : List Step) :
    let start := create (.empty hasher maxHistory maxPrivateHistory) cache surroundings chatLog
    let hub := start.advance steps
    (Strict.performAll start steps = .ok ((start.turns steps).map Turn.done) ↔
      ∀ step ∈ steps, ∀ fault, ¬ step.Raises fault) ∧
    (∀ step : Step, ((∀ fault, ¬ step.Raises fault) → Strict.perform hub step = .ok (hub.perform step)) ∧
      ∀ fault, step.Raises fault → Strict.perform hub step = .error (.other fault.message)) ∧
    hub.store.Resolves ∧
    ∀ (now : Instant) (connection : String) (text : Text), BuiltIn.dispatcher.isCommand text = true →
      ∃ reply, sent (hub.perform ⟨now, connection, .message (some text)⟩).effects =
          [.caller connection (.system reply now)] ∧
        ∀ token command arguments raised, BuiltIn.dispatcher.select text = .handler token command arguments →
          (Strict.run hub.store ⟨hub.store.session? connection, now⟩ command arguments hub.commands).1 =
            .error raised →
          reply = "❌ Error: " ++ raised.message := by
  intro start hub
  have fresh : start.store.Linked := (Store.consistent_empty hasher maxHistory maxPrivateHistory).toLinked
  have linked : hub.store.Linked := linked_advance fresh steps
  refine ⟨strict_performAll fresh steps, fun step => ⟨strict_perform linked, fun fault => strict_perform_of_raises hub⟩,
    linked.resolves, fun now connection text isCommand => ?_⟩
  obtain ⟨reply, only, ends⟩ := perform_command isCommand hub now connection
  refine ⟨reply, only, fun token command arguments raised selected failed => ?_⟩
  have same := strict_run linked ⟨hub.store.session? connection, now⟩ command arguments hub.commands
  rw [(ends token command arguments selected).1, ← same, failed]
  rfl

/-- Nobody can log in or write, and half an hour before the calendar ends there is no time in Moscow any more. -/
theorem raised_only_by_unencodable_passwords_of_last_hour :
    let start := create (.empty .plain 5 5) (.empty 600 Instant.uptime) ⟨[], []⟩ .default
    let steps : List Step := [⟨⟨0⟩, "", .login none none⟩, ⟨⟨-1⟩, "a", .message none⟩, ⟨⟨0⟩, "a", .sendPrivate none none⟩]
    let last : Instant := ⟨253402298999999999⟩
    Strict.performAll start steps = .ok ((start.turns steps).map Turn.done) ∧
      sent ((start.advance steps).perform ⟨last, "a", .message (some "/time")⟩).effects =
        [.caller "a" (.system "❌ Error: date value out of range" last)] := by
  intro start steps last
  obtain ⟨performed, -, -, commands⟩ :=
    raised_only_by_unencodable_passwords .plain 5 5 (.empty 600 Instant.uptime) ⟨[], []⟩ .default steps
  have quiet : ∀ step ∈ steps, ∀ fault, ¬ step.Raises fault := by
    rintro step listed fault ⟨username, email, password, registers, -⟩
    simp only [steps, List.mem_cons, List.not_mem_nil, or_false] at listed
    rcases listed with rfl | rfl | rfl <;> cases registers
  obtain ⟨reply, only, failing⟩ := commands last "a" "/time" (by decide +kernel)
  have selected : BuiltIn.dispatcher.select "/time" = .handler "/time" .time [] := by
    have words : Text.words (Text.ofString "/time") = [Text.ofString "/time"] := by decide +kernel
    have token : Text.lowered "/time" = "/time" := by decide +kernel
    have found : BuiltIn.dispatcher.handlers.find? "/time" = some .time := by decide +kernel
    simp only [Dispatcher.select, words, token, found]
  rw [failing "/time" .time [] (.other "date value out of range") selected (by rfl)] at only
  exact ⟨performed.2 quiet, only⟩

/-- A half of a UTF-16 pair in the password of a registration: what is raised is no refusal, and nothing catches it. -/
theorem half_password_gets_out :
    let start := create (.empty .plain 5 5) (.empty 600 Instant.uptime) ⟨[], []⟩ .default
    Strict.performAll start [⟨⟨0⟩, "c", .register (some "ann") (some "a@x") (some (.half 0 :: Text.ofString "aaaaaa"))⟩] =
      .error (.other "'utf-8' codec can't encode character '\\ud800' in position 0: surrogates not allowed") := by
  rfl

end Hub

end ChatService
