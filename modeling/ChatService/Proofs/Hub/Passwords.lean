import ChatService.Proofs.Hub.Strict
import ChatService.Proofs.Store.Reseal
import Mathlib.Data.List.Forall2

/-!
# The secrecy of passwords

Two runs of the hub that differ only in passwords. As long as the same registrations have
a password that is long enough and the same logins have a matching one, the hubs of the two
runs differ in the hashes of passwords alone, and those show nowhere: not on the wire, not in
a log, and in no result but in the account that it holds. What does show is the complaint
about a password that cannot be encoded.
-/

namespace ChatService

/-! ## What is seen -/

/-- What an effect shows to clients and to the readers of the log. -/
inductive Sight
  | caller (connection : String) (payload : Json)
  | to (connection : String) (payload : Json)
  | all (payload : Json)
  | log (line : LogLine)
  | fetched (address : String)
  | raised (connection message : String)

/-- What is seen of an effect: of a reply, what goes over the wire. -/
def Effect.sight : Effect → Sight
  | caller connection reply => .caller connection reply.toJson
  | .to connection reply => .to connection reply.toJson
  | all reply => .all reply.toJson
  | log line => .log line
  | fetched address => .fetched address
  | raised connection message => .raised connection message

/-- The account without the hash of its password. -/
def User.redacted (u : User) : User := { u with password := "" }

/-- The same reply about an account with another hash of its password. -/
def Reply.reseal (sealing : Sealing) : Reply → Reply
  | registerSuccess u => .registerSuccess (u.reseal sealing)
  | loginSuccess u => .loginSuccess (u.reseal sealing)
  | r => r

theorem Reply.toJson_reseal (sealing : Sealing) (r : Reply) :
    (r.reseal sealing).toJson = r.toJson := by
  cases r <;> rfl

namespace Effect

def reseal (sealing : Sealing) : Effect → Effect
  | caller connection reply => .caller connection (reply.reseal sealing)
  | .to connection reply => .to connection (reply.reseal sealing)
  | all reply => .all (reply.reseal sealing)
  | log line => .log line
  | fetched address => .fetched address
  | raised connection message => .raised connection message

variable (sealing : Sealing)

theorem sight_reseal (e : Effect) : (e.reseal sealing).sight = e.sight := by
  cases e <;> simp [reseal, sight, Reply.toJson_reseal]

theorem map_sight_reseal (effects : List Effect) :
    (effects.map (reseal sealing)).map sight = effects.map sight := by
  rw [List.map_map]
  exact List.map_congr_left fun e _ => sight_reseal sealing e

/-- Without replies there are no accounts. -/
theorem map_reseal_of_silent {effects : List Effect} (silent : sent effects = []) :
    effects.map (reseal sealing) = effects := by
  refine (List.map_congr_left fun e member => ?_).trans (List.map_id effects)
  have mute : e.reply?.isSome = false := by
    have absent : e ∉ sent effects := silent ▸ List.not_mem_nil
    simpa [mem_sent_iff, member] using absent
  cases e with
  | log | fetched | raised => rfl
  | _ => simp at mute

end Effect

namespace Hub

/-! ## Results -/

/-- The result of an operation. -/
inductive Result
  | nothing
  | broadcast (message : Option Message)
  | account (user : Option User)
  | privateMessage (message : Option PrivateMessage)
  | conversation (messages : Option (List PrivateMessage))
  | added (done : Bool)
  | contacts (entries : Option (List ContactStatus))
  | history (messages : List Message)
deriving DecidableEq

/-- The result with the account in it changed. -/
def Result.mapAccount (f : User → User) : Result → Result
  | account user => .account (user.map f)
  | result => result

/-- What the result says apart from the hash of a password. -/
def Result.redacted (result : Result) : Result := result.mapAccount User.redacted

theorem Result.redacted_reseal (sealing : Sealing) (result : Result) :
    (result.mapAccount (User.reseal sealing)).redacted = result.redacted := by
  cases result with
  | account user => cases user <;> rfl
  | _ => rfl

end Hub

/-- The outcome with its value wrapped. -/
def Outcome.map {α β : Type} (f : α → β) (outcome : Outcome α) : Outcome β :=
  ⟨f outcome.value, outcome.hub, outcome.effects⟩

namespace Hub

/-- Carries out a step, with its result. -/
def carryOut (hub : Hub) (step : Step) : Outcome Result :=
  match step.operation with
  | .connect => (hub.connect step.connection).map fun _ => .nothing
  | .disconnect => (hub.disconnect step.time step.connection).map fun _ => .nothing
  | .heartbeat => (hub.heartbeat step.time step.connection).map fun _ => .nothing
  | .message text => (hub.message step.time step.connection text).map .broadcast
  | .register username email password =>
    (hub.register step.time step.connection username email password).map .account
  | .login username password => (hub.login step.time step.connection username password).map .account
  | .logout => (hub.logout step.time step.connection).map .account
  | .sendPrivate recipient text => (hub.sendPrivate step.time step.connection recipient text).map .privateMessage
  | .getPrivateHistory username => (hub.getPrivateHistory step.connection username).map .conversation
  | .addContact username => (hub.addContact step.time step.connection username).map .added
  | .getContacts => (hub.getContacts step.connection).map .contacts
  | .getHistory => (hub.getHistory step.connection).map .history

theorem of_carryOut (hub : Hub) (step : Step) : Done.of (hub.carryOut step) = hub.perform step := by
  obtain ⟨now, connection, operation⟩ := step
  cases operation <;> simp only [carryOut, perform, Done.of, Outcome.map]

/-! ## Other passwords -/

/-- The same hub with another hasher and other hashes of passwords. -/
def reseal (hub : Hub) (sealing : Sealing) : Hub := { hub with store := hub.store.reseal sealing }

end Hub

/-- The same outcome with other hashes of passwords everywhere. -/
def Outcome.reseal (sealing : Sealing) (outcome : Outcome Hub.Result) : Outcome Hub.Result :=
  ⟨outcome.value.mapAccount (User.reseal sealing), outcome.hub.reseal sealing,
    outcome.effects.map (Effect.reseal sealing)⟩

namespace Hub

variable {hub : Hub} {sealing : Sealing} {now : Instant} {connection : String}

@[simp] theorem store_reseal : (hub.reseal sealing).store = hub.store.reseal sealing := rfl

@[simp] theorem presence_reseal (s : Store) : presence (s.reseal sealing) = presence s := by
  simp only [presence, Store.online_reseal]

theorem map_reseal_presence (s : Store) : (presence s).map (Effect.reseal sealing) = presence s := rfl

/-- A command takes no more of its caller than the identity. -/
theorem run_reseal (store : Store) (user : Option User) :
    BuiltIn.run (store.reseal sealing) ⟨user.map (User.reseal sealing), now⟩ =
      BuiltIn.run store ⟨user, now⟩ := by
  funext command arguments state
  cases command with
  | contacts =>
    cases user with
    | none => rfl
    | some u =>
      simp only [BuiltIn.run, BuiltIn.contactsReply, Option.map_some, User.reseal, Store.contactsOf_reseal]
  | online => simp only [BuiltIn.run, BuiltIn.onlineReply, Store.online_reseal]
  | weather | time | calculate | joke | rates | help => rfl

theorem refuse_reseal {α : Type} (f : α → Result) (refusal : Refusal) (value : α) (before : List Effect)
    (plain : (f value).mapAccount (User.reseal sealing) = f value)
    (silent : before.map (Effect.reseal sealing) = before) :
    ((hub.reseal sealing).refuse connection refusal value before).map f =
      ((hub.refuse connection refusal value before).map f).reseal sealing := by
  simp only [refuse, Outcome.map, Outcome.reseal, plain, List.map_append, silent]
  rfl

theorem append_reseal (log : ChatLog) (record : Instant → Text) :
    (log.append now record).2.map (Effect.reseal sealing) = (log.append now record).2 :=
  Effect.map_reseal_of_silent sealing (ChatLog.sent_append log now record)

theorem command_reseal (user : Option User) (text : Text) :
    ((hub.reseal sealing).command now connection (user.map (User.reseal sealing)) text).map Result.broadcast =
      ((hub.command now connection user text).map Result.broadcast).reseal sealing := by
  have who : (user.map (User.reseal sealing)).map (·.username) = user.map (·.username) := by
    rw [Option.map_map]
    rfl
  have quiet := Effect.map_reseal_of_silent sealing (BuiltIn.sent_dispatch hub.store ⟨user, now⟩
    ((user.map (·.username)).getD Dispatcher.anonymous) text hub.commands)
  simp only [Hub.command, store_reseal, who, run_reseal, Outcome.map, Outcome.reseal, List.map_append]
  rw [quiet]
  rfl

theorem message_reseal (text : Option Text) :
    (hub.reseal sealing).carryOut ⟨now, connection, .message text⟩ =
      (hub.carryOut ⟨now, connection, .message text⟩).reseal sealing := by
  simp only [carryOut, Hub.message, store_reseal, Store.session?_reseal]
  split
  · exact command_reseal _ _
  · cases hub.store.session? connection with
    | none => exact refuse_reseal _ _ _ _ rfl rfl
    | some u =>
      cases Store.textFault? (text.getD "") with
      | some refusal => exact refuse_reseal _ _ _ _ rfl rfl
      | none =>
        simp only [Outcome.map, Outcome.reseal, Option.map_some, List.map_append, List.map_cons, append_reseal]
        rfl

theorem carryOut_of_raises {step : Step} {fault : EncodeFault} (raises : step.Raises fault) :
    hub.carryOut step = (hub.raise step.connection fault.message none).map .account := by
  obtain ⟨now, connection, operation⟩ := step
  obtain ⟨username, email, password, registers, unencodable⟩ := raises
  cases registers
  simp only [carryOut, Hub.register, Store.register_unencodable_iff.2 unencodable]

/-- Two steps complain in the same words that a password cannot be encoded, or neither does. -/
def Step.SameComplaint (step step' : Step) : Prop :=
  ∀ message, (∃ fault, step.Raises fault ∧ fault.message = message) ↔
    ∃ fault, step'.Raises fault ∧ fault.message = message

/-- Two passwords of a registration are both too short, or neither is. -/
def SameSide (password password' : Option Text) : Prop :=
  (password.getD "").length < minPasswordLength ↔ (password'.getD "").length < minPasswordLength

instance (password password' : Option Text) : Decidable (SameSide password password') :=
  inferInstanceAs (Decidable (_ ↔ _))

theorem SameSide.acceptable {username email password password' : Option Text} (sides : SameSide password password')
    (fit : Store.Acceptable username email password) : Store.Acceptable username email password' :=
  ⟨fit.1, Nat.not_lt.1 (mt sides.2 (Nat.not_lt.2 fit.2.1)), fit.2.2⟩

/-- Two registrations that complain alike do the same. If they complain they do nothing else, and otherwise both
passwords have bytes as far as they are read. -/
theorem register_reseal {username email password password' : Option Text}
    (sides : SameSide password password')
    (complaints : Step.SameComplaint ⟨now, connection, .register username email password⟩
      ⟨now, connection, .register username email password'⟩)
    (sealed : ∀ digest, Password.digest? (password'.getD "") = .ok digest →
      sealing.hash hub.store.nextId = sealing.hasher.hash hub.store.drawn digest) :
    (hub.reseal sealing).carryOut ⟨now, connection, .register username email password'⟩ =
      (hub.carryOut ⟨now, connection, .register username email password⟩).reseal sealing := by
  by_cases raises : ∃ fault, Step.Raises ⟨now, connection, .register username email password⟩ fault
  · obtain ⟨fault, raises⟩ := raises
    obtain ⟨fault', raises', same⟩ := (complaints fault.message).1 ⟨fault, raises, rfl⟩
    rw [carryOut_of_raises raises, carryOut_of_raises raises', same]
    rfl
  · have quiet' (fault : EncodeFault) : ¬ Step.Raises ⟨now, connection, .register username email password'⟩ fault := by
      intro raises'
      obtain ⟨fault', raises', -⟩ := (complaints fault.message).2 ⟨fault, raises', rfl⟩
      exact raises ⟨fault', raises'⟩
    have encodable (fit : Store.Acceptable username email password) :
        Store.Encodable password ∧ Store.Encodable password' := by
      constructor
      · cases digested : Password.digest? (password.getD "") with
        | ok digest => exact ⟨digest, digested⟩
        | error fault => exact absurd ⟨fault, username, email, password, rfl, fit, digested⟩ raises
      · cases digested : Password.digest? (password'.getD "") with
        | ok digest => exact ⟨digest, digested⟩
        | error fault => exact absurd ⟨username, email, password', rfl, sides.acceptable fit, digested⟩ (quiet' fault)
    simp only [carryOut, Hub.register, store_reseal, Store.register_reseal sides encodable sealed]
    rcases hub.store.register now username email password with (refusal | fault) | value
    · exact refuse_reseal _ _ _ _ rfl rfl
    · rfl
    · rfl

theorem login_reseal {username password password' : Option Text}
    (agrees : ∀ u, hub.store.user? username = some u →
      sealing.hasher.verify (password'.getD "") (sealing.hash u.id) =
        hub.store.hasher.verify (password.getD "") u.password) :
    (hub.reseal sealing).carryOut ⟨now, connection, .login username password'⟩ =
      (hub.carryOut ⟨now, connection, .login username password⟩).reseal sealing := by
  simp only [carryOut, Hub.login, store_reseal, Store.login_reseal agrees]
  cases hub.store.login now username password connection with
  | error refusal => exact refuse_reseal _ _ _ _ rfl rfl
  | ok value =>
    simp only [Except.map, Outcome.map, Outcome.reseal, presence_reseal, List.map_cons, map_reseal_presence]
    rfl

theorem disconnect_reseal :
    (hub.reseal sealing).carryOut ⟨now, connection, .disconnect⟩ =
      (hub.carryOut ⟨now, connection, .disconnect⟩).reseal sealing := by
  simp only [carryOut, Hub.disconnect, store_reseal, Store.disconnect_reseal]
  rcases hub.store.disconnect now connection with ⟨_ | user, store⟩
  · rfl
  · simp only [Option.map_some, Outcome.map, Outcome.reseal, presence_reseal, List.map_cons, map_reseal_presence]
    rfl

theorem logout_reseal :
    (hub.reseal sealing).carryOut ⟨now, connection, .logout⟩ =
      (hub.carryOut ⟨now, connection, .logout⟩).reseal sealing := by
  simp only [carryOut, Hub.logout, Store.logout, store_reseal, Store.disconnect_reseal]
  rcases hub.store.disconnect now connection with ⟨_ | user, store⟩
  · rfl
  · simp only [Option.map_some, Outcome.map, Outcome.reseal, presence_reseal, List.map_cons, map_reseal_presence]
    rfl

theorem deliver_reseal (s : Store) (recipient : Text) (d : Delivery) :
    deliver (s.reseal sealing) connection recipient d = deliver s connection recipient d := by
  simp only [deliver, Store.user?_reseal]
  cases s.user? recipient <;> rfl

theorem map_reseal_deliver (s : Store) (recipient : Text) (d : Delivery) :
    (deliver s connection recipient d).map (Effect.reseal sealing) = deliver s connection recipient d := by
  rcases deliver_cases s connection recipient d with none | ⟨other, one⟩
  · rw [none, List.map_nil]
  · rw [one]
    rfl

theorem sendPrivate_reseal (recipient text : Option Text) :
    (hub.reseal sealing).carryOut ⟨now, connection, .sendPrivate recipient text⟩ =
      (hub.carryOut ⟨now, connection, .sendPrivate recipient text⟩).reseal sealing := by
  simp only [carryOut, Hub.sendPrivate, store_reseal, Store.session?_reseal]
  cases hub.store.session? connection with
  | none => exact refuse_reseal _ _ _ _ rfl rfl
  | some sender =>
    have id : (sender.reseal sealing).id = sender.id := rfl
    simp only [Option.map_some, id, Store.sendPrivate_reseal]
    cases hub.store.sendPrivate now sender.id recipient text with
    | error refusal => exact refuse_reseal _ _ _ _ rfl rfl
    | ok value =>
      simp only [Except.map, Outcome.map, Outcome.reseal, deliver_reseal, List.map_append, List.map_cons,
        append_reseal, map_reseal_deliver]
      rfl

theorem getPrivateHistory_reseal (username : Option Text) :
    (hub.reseal sealing).carryOut ⟨now, connection, .getPrivateHistory username⟩ =
      (hub.carryOut ⟨now, connection, .getPrivateHistory username⟩).reseal sealing := by
  simp only [carryOut, Hub.getPrivateHistory, store_reseal, Store.session?_reseal, Store.user?_reseal]
  cases hub.store.session? connection with
  | none => exact refuse_reseal _ _ _ _ rfl rfl
  | some u =>
    cases hub.store.user? username with
    | none => exact refuse_reseal _ _ _ _ rfl rfl
    | some other => rfl

theorem addContact_reseal (target : Option Text) :
    (hub.reseal sealing).carryOut ⟨now, connection, .addContact target⟩ =
      (hub.carryOut ⟨now, connection, .addContact target⟩).reseal sealing := by
  simp only [carryOut, Hub.addContact, store_reseal, Store.session?_reseal]
  cases hub.store.session? connection with
  | none => exact refuse_reseal _ _ _ _ rfl rfl
  | some owner =>
    have id : (owner.reseal sealing).id = owner.id := rfl
    simp only [Option.map_some, id, Store.addContact_reseal]
    cases hub.store.addContact now owner.id target with
    | error refusal => exact refuse_reseal _ _ _ _ rfl rfl
    | ok value =>
      rcases value with ⟨_ | _, store⟩ <;> rfl

theorem getContacts_reseal :
    (hub.reseal sealing).carryOut ⟨now, connection, .getContacts⟩ =
      (hub.carryOut ⟨now, connection, .getContacts⟩).reseal sealing := by
  simp only [carryOut, Hub.getContacts, store_reseal, Store.session?_reseal]
  cases hub.store.session? connection with
  | none => exact refuse_reseal _ _ _ _ rfl rfl
  | some owner =>
    have id : (owner.reseal sealing).id = owner.id := rfl
    simp only [Option.map_some, id, Store.contactsOf_reseal]
    rfl

/-! ## Two runs -/

/-- Two steps that differ at most in a password. Two passwords of a registration are both too short, or
neither is. -/
inductive Step.SameButPassword : Step → Step → Prop
  | same (step : Step) : SameButPassword step step
  | register {now : Instant} {connection : String} {username email password password' : Option Text}
      (sides : SameSide password password') :
      SameButPassword ⟨now, connection, .register username email password⟩
        ⟨now, connection, .register username email password'⟩
  | login {now : Instant} {connection : String} {username password password' : Option Text} :
      SameButPassword ⟨now, connection, .login username password⟩
        ⟨now, connection, .login username password'⟩

namespace Step

/-- The password of a registration. A missing one counts as empty. -/
def chosen? (step : Step) : Option Text :=
  match step.operation with
  | .register _ _ password => some (password.getD "")
  | _ => none

/-- The password of a login. A missing one counts as empty. -/
def offered? (step : Step) : Option Text :=
  match step.operation with
  | .login _ password => some (password.getD "")
  | _ => none

theorem SameButPassword.of_register {step step' : Step} (alike : step.SameButPassword step')
    {username email password : Option Text} (registers : step.operation = .register username email password)
    (fit : Store.Acceptable username email password) : ∃ password',
      step'.operation = .register username email password' ∧ Store.Acceptable username email password' := by
  cases alike with
  | same => exact ⟨password, registers, fit⟩
  | register sides =>
    cases registers
    exact ⟨_, rfl, sides.acceptable fit⟩
  | login => cases registers

/-- Two steps of runs in which passwords are `chosen` together: they differ at most in a password and complain alike,
and the passwords of a login match the same choices. -/
structure Follows (chosen : Text → Text → Prop) (step step' : Step) : Prop where
  alike : step.SameButPassword step'
  complains : step.SameComplaint step'
  chooses : ∀ p ∈ step.chosen?, ∀ p' ∈ step'.chosen?, chosen p p'
  offers : ∀ q ∈ step.offered?, ∀ q' ∈ step'.offered?, ∀ p p', chosen p p' →
    (Password.SameDigest p q ↔ Password.SameDigest p' q')

end Step

/-- The passwords of a registration and of a login match in one run when they do in the other. -/
def SameMatches (steps steps' : List Step) : Prop :=
  ∀ r ∈ steps.zip steps', ∀ l ∈ steps.zip steps',
    ∀ p ∈ r.1.chosen?, ∀ p' ∈ r.2.chosen?, ∀ q ∈ l.1.offered?, ∀ q' ∈ l.2.offered?,
      (Password.SameDigest p q ↔ Password.SameDigest p' q')

/-- Two passwords are chosen at one place of two runs. -/
def ChosenTogether (steps steps' : List Step) (p p' : Text) : Prop :=
  ∃ r ∈ steps.zip steps', p ∈ r.1.chosen? ∧ p' ∈ r.2.chosen?

theorem follows_of_sameMatches {steps steps' : List Step} (alike : List.Forall₂ Step.SameButPassword steps steps')
    (complaints : List.Forall₂ Step.SameComplaint steps steps') (same : SameMatches steps steps') :
    List.Forall₂ (Step.Follows (ChosenTogether steps steps')) steps steps' := by
  obtain ⟨lengths, alike⟩ := List.forall₂_iff_zip.1 alike
  obtain ⟨-, complaints⟩ := List.forall₂_iff_zip.1 complaints
  refine List.forall₂_iff_zip.2 ⟨lengths, fun {step step'} here => ⟨alike here, complaints here, ?_, ?_⟩⟩
  · intro p chosen p' chosen'
    exact ⟨_, here, chosen, chosen'⟩
  · rintro q offered q' offered' p p' ⟨r, there, chosen, chosen'⟩
    exact same r there _ here p chosen p' chosen' q offered q' offered'

/-- Every account has the hash of a password of the first run, and in the second run of the one chosen together with
it. -/
def SealedFrom (chosen : Text → Text → Prop) (sealing : Sealing) (s : Store) : Prop :=
  ∀ id u, s.users.find? id = some u →
    ∃ p p', chosen p p' ∧ s.hasher.Made p u.password ∧ sealing.hasher.Made p' (sealing.hash id)

/-- Two hubs that differ at most in their hashers and in the hashes of passwords, which were chosen together. -/
structure Disguise (chosen : Text → Text → Prop) (sealing : Sealing) (hub hub' : Hub) : Prop where
  linked : hub.store.Linked
  exact : hub.store.hasher.Exact
  exact' : sealing.hasher.Exact
  second : hub' = hub.reseal sealing
  sealed : SealedFrom chosen sealing hub.store

/-- What is done on both sides differs only in hashes. -/
theorem carryOut_reseal {chosen : Text → Text → Prop} {step step' : Step} (linked : hub.store.Linked)
    (exact : hub.store.hasher.Exact) (exact' : sealing.hasher.Exact) (sealed : SealedFrom chosen sealing hub.store)
    (follows : step.Follows chosen step')
    (next : ∀ p' ∈ step'.chosen?, ∀ digest, Password.digest? p' = .ok digest →
      sealing.hash hub.store.nextId = sealing.hasher.hash hub.store.drawn digest) :
    (hub.reseal sealing).carryOut step' = (hub.carryOut step).reseal sealing := by
  obtain ⟨alike, complains, -, offers⟩ := follows
  have agrees {username password password' : Option Text}
      (same : ∀ p p', chosen p p' →
        (Password.SameDigest p (password.getD "") ↔ Password.SameDigest p' (password'.getD ""))) (u : User)
      (named : hub.store.user? username = some u) :
      sealing.hasher.verify (password'.getD "") (sealing.hash u.id) =
        hub.store.hasher.verify (password.getD "") u.password := by
    obtain ⟨_, id, -, -, found⟩ := Store.user?_eq_some_iff.1 named
    obtain ⟨p, p', together, first, second⟩ := sealed id u found
    rw [Bool.eq_iff_iff, exact.verify_iff first, same p p' together, linked.keyed found, exact'.verify_iff second]
  cases alike with
  | register sides => exact register_reseal sides complains (next _ rfl)
  | login => exact login_reseal (agrees (offers _ rfl _ rfl))
  | same =>
    obtain ⟨now, connection, operation⟩ := step
    cases operation with
    | connect | heartbeat | getHistory => rfl
    | disconnect => exact disconnect_reseal
    | message text => exact message_reseal text
    | register username email password => exact register_reseal Iff.rfl complains (next _ rfl)
    | login username password => exact login_reseal (agrees (offers _ rfl _ rfl))
    | logout => exact logout_reseal
    | sendPrivate recipient text => exact sendPrivate_reseal recipient text
    | getPrivateHistory username => exact getPrivateHistory_reseal username
    | addContact username => exact addContact_reseal username
    | getContacts => exact getContacts_reseal

theorem sealedFrom_of_sameAccounts {chosen : Text → Text → Prop} {s s' : Store}
    (sealed : SealedFrom chosen sealing s) (same : s.SameAccounts s') (hashers : s'.hasher = s.hasher) :
    SealedFrom chosen sealing s' := by
  intro id u found
  obtain ⟨v, found', registered⟩ := same.symm.find found
  rw [← (User.eq_of_registered registered).2.2.2.1, hashers]
  exact sealed id v found'

theorem hasher_perform (hub : Hub) (step : Step) : (hub.perform step).hub.store.hasher = hub.store.hasher := by
  apply perform_store hub step (P := fun s' => s'.hasher = hub.store.hasher)
  · rfl
  · intro _ _ _ _ _ _ ok
    obtain ⟨-, -, -, -, -, -, -, -, -, -, -, rfl⟩ := Store.register_ok ok
    rfl
  · intro _ _ _ _ _ ok
    exact (Store.onlySessions_login ok).hasher_eq
  · intro _
    exact (Store.onlySessions_disconnect _ _ _).hasher_eq
  · intro _ _ _ _
    rfl
  · intro _ _ _ _ _ _ _ ok
    obtain ⟨-, -, -, -, -, -, -, -, rfl⟩ := Store.sendPrivate_ok ok
    rfl
  · intro _ _ _ _ _ _ ok
    obtain ⟨_, -, -, ⟨-, rfl, -⟩ | ⟨-, -, rfl⟩⟩ := Store.addContact_ok ok <;> rfl

theorem sealedFrom_perform {chosen : Text → Text → Prop} (linked : hub.store.Linked)
    (sealed : SealedFrom chosen sealing hub.store) {step : Step}
    (next : ∀ username email password, step.operation = .register username email password →
      Store.Acceptable username email password → Store.Encodable password →
      ∃ p', chosen (password.getD "") p' ∧ sealing.hasher.Made p' (sealing.hash hub.store.nextId)) :
    SealedFrom chosen sealing (hub.perform step).hub.store := by
  apply perform_store hub step (P := SealedFrom chosen sealing)
  · exact sealed
  · intro username email password u s' asked ok id v found
    obtain ⟨new, named, mailed, made, -, -, -, -, fine, -, -, rfl⟩ := Store.register_ok ok
    rw [named, mailed] at fine
    rw [Table.find?_insert] at found
    split at found
    · next here =>
      have encodable : Store.Encodable password := by
        obtain ⟨salt, digest, digested, -⟩ := made
        exact ⟨digest, digested⟩
      have acceptable := Store.registrationFault?_eq_none_iff.1 fine
      obtain ⟨p', together, second⟩ := next username email password asked acceptable encodable
      cases found
      exact ⟨_, p', together, made, by rw [here, new]; exact second⟩
    · exact sealed id v found
  · intro _ _ _ _ _ ok
    exact sealedFrom_of_sameAccounts sealed (Store.sameAccounts_login linked ok) (Store.onlySessions_login ok).hasher_eq
  · intro _
    exact sealedFrom_of_sameAccounts sealed (Store.sameAccounts_disconnect linked)
      (Store.onlySessions_disconnect _ _ _).hasher_eq
  · intro _ _ _ _
    exact sealed
  · intro _ _ _ _ _ _ _ ok
    obtain ⟨-, -, -, -, -, -, -, -, rfl⟩ := Store.sendPrivate_ok ok
    exact sealed
  · intro _ _ _ _ _ _ ok
    obtain ⟨_, -, -, ⟨-, rfl, -⟩ | ⟨-, -, rfl⟩⟩ := Store.addContact_ok ok
    · exact sealed
    · exact sealed

/-- Two turns that nobody can tell apart: they have the same result apart from the hash of a password, and show
the same effects and the same chat log. -/
structure Turn.LooksLike (turn turn' : Turn) : Prop where
  result : (turn'.hub.carryOut turn'.step).value.redacted = (turn.hub.carryOut turn.step).value.redacted
  sights : turn'.done.effects.map Effect.sight = turn.done.effects.map Effect.sight
  chatLog : turn'.done.hub.chatLog = turn.done.hub.chatLog

theorem looksLike_of_reseal {hub' : Hub} {step step' : Step}
    (same : hub'.carryOut step' = (hub.carryOut step).reseal sealing) :
    Turn.LooksLike ⟨hub, step⟩ ⟨hub', step'⟩ := by
  refine ⟨?_, ?_, ?_⟩
  · rw [same]
    exact Result.redacted_reseal sealing _
  · simp only [Turn.done, ← of_carryOut, same, Done.of, Outcome.reseal, Effect.map_sight_reseal]
  · simp only [Turn.done, ← of_carryOut, same, Done.of, Outcome.reseal, reseal]

/-- One step: hubs in disguise that do the same look alike, and stay in disguise. -/
theorem disguise_perform {chosen : Text → Text → Prop} {hub' : Hub}
    (disguise : Disguise chosen sealing hub hub') {step step' : Step} (follows : step.Follows chosen step') :
    Turn.LooksLike ⟨hub, step⟩ ⟨hub', step'⟩ ∧
      ∃ sealing', Disguise chosen sealing' (hub.perform step).hub (hub'.perform step').hub := by
  obtain ⟨linked, exact, exact', rfl, sealed⟩ := disguise
  -- No account has the identity that is drawn next, so its hash can be fixed beforehand.
  let given : String :=
    ((Password.digest? (step'.chosen?.getD "")).toOption.map (sealing.hasher.hash hub.store.drawn)).getD ""
  let sealing' : Sealing := ⟨sealing.hasher, fun id => if id = hub.store.nextId then given else sealing.hash id⟩
  have fresh {id : Id} {u : User} (found : hub.store.users.find? id = some u) : sealing'.hash id = sealing.hash id := by
    refine if_neg fun same => ?_
    rw [same, Store.find?_nextId linked] at found
    cases found
  have next (digest : String) (digested : Password.digest? (step'.chosen?.getD "") = .ok digest) :
      sealing'.hash hub.store.nextId = sealing'.hasher.hash hub.store.drawn digest := by
    simp only [sealing', if_true, given, digested]
    rfl
  have same : hub.reseal sealing = hub.reseal sealing' := by
    unfold reseal
    rw [Store.reseal_congr linked (show sealing.hasher = sealing'.hasher from rfl) fun id u found => (fresh found).symm]
  have sealed' : SealedFrom chosen sealing' hub.store := by
    intro id u found
    rw [fresh found]
    exact sealed id u found
  have done : (hub.reseal sealing).carryOut step' = (hub.carryOut step).reseal sealing' := by
    rw [same]
    refine carryOut_reseal linked exact exact' sealed' follows fun p' choice digest digested => next digest ?_
    rw [Option.mem_def.1 choice, Option.getD_some, digested]
  refine ⟨looksLike_of_reseal done, sealing', linked_perform linked step, ?_, exact', ?_, ?_⟩
  · rw [hasher_perform]
    exact exact
  · rw [← of_carryOut, done, ← of_carryOut]
    rfl
  · refine sealedFrom_perform linked sealed' fun username email password registers fit encodable => ?_
    obtain ⟨password', registers', fit'⟩ := follows.alike.of_register registers fit
    have choice : step.chosen? = some (password.getD "") := by simp only [Step.chosen?, registers]
    have choice' : step'.chosen? = some (password'.getD "") := by simp only [Step.chosen?, registers']
    rw [choice', Option.getD_some] at next
    cases digested : Password.digest? (password'.getD "") with
    | ok digest =>
      exact ⟨_, follows.chooses _ choice _ choice', hub.store.drawn, digest, digested, next digest digested⟩
    | error fault =>
      obtain ⟨digest, digested'⟩ := encodable
      obtain ⟨fault', raises, -⟩ := (follows.complains fault.message).2
        ⟨fault, ⟨username, email, password', registers', fit', digested⟩, rfl⟩
      obtain ⟨_, _, _, again, -, failed⟩ := raises
      cases registers.symm.trans again
      rw [digested'] at failed
      cases failed

/-- A whole run in disguise. -/
theorem looksLike_turns {chosen : Text → Text → Prop} {steps steps' : List Step}
    (follows : List.Forall₂ (Step.Follows chosen) steps steps') {hub hub' : Hub}
    (disguise : Disguise chosen sealing hub hub') :
    List.Forall₂ Turn.LooksLike (hub.turns steps) (hub'.turns steps') ∧
      ∃ sealing', Disguise chosen sealing' (hub.advance steps) (hub'.advance steps') := by
  induction follows generalizing sealing hub hub' with
  | nil => exact ⟨.nil, sealing, disguise⟩
  | cons first _ ih =>
    obtain ⟨alike, sealing', disguise'⟩ := disguise_perform disguise first
    obtain ⟨rest, last⟩ := ih disguise'
    exact ⟨.cons alike rest, last⟩

/-! ## What shows -/

/-- The complaint about a password is seen. -/
theorem raised_mem_sights (hub : Hub) {username email password : Option Text} {message : String} :
    Sight.raised connection message ∈
        (hub.perform ⟨now, connection, .register username email password⟩).effects.map Effect.sight ↔
      ∃ fault, Step.Raises ⟨now, connection, .register username email password⟩ fault ∧ fault.message = message := by
  have raises (fault : EncodeFault) : Step.Raises ⟨now, connection, .register username email password⟩ fault ↔
      hub.store.register now username email password = .error (.unencodable fault) := by
    rw [Store.register_unencodable_iff]
    constructor
    · rintro ⟨_, _, _, registers, unencodable⟩
      cases registers
      exact unencodable
    · exact fun unencodable => ⟨_, _, _, rfl, unencodable⟩
  simp only [raises, perform, Done.of, Hub.register]
  rcases hub.store.register now username email password with (refusal | fault) | ⟨user, store⟩
  · simp [refuse, Effect.sight]
  · simp [raise, Effect.sight, eq_comm]
  · simp [Effect.sight]

theorem complaint_of_looksLike {hub hub' : Hub} {step step' : Step} (alike : step.SameButPassword step')
    (looks : Turn.LooksLike ⟨hub, step⟩ ⟨hub', step'⟩) : step.SameComplaint step' := by
  intro message
  cases alike with
  | same => exact Iff.rfl
  | login =>
    refine iff_of_false ?_ ?_
    · rintro ⟨fault, ⟨_, _, _, registers, -⟩, -⟩
      cases registers
    · rintro ⟨fault, ⟨_, _, _, registers, -⟩, -⟩
      cases registers
  | register =>
    rw [← raised_mem_sights hub, ← raised_mem_sights hub']
    exact Iff.of_eq (congrArg (_ ∈ ·) looks.sights.symm)

theorem complaints_of_looksLike {steps steps' : List Step} (alike : List.Forall₂ Step.SameButPassword steps steps')
    {hub hub' : Hub} (looks : List.Forall₂ Turn.LooksLike (hub.turns steps) (hub'.turns steps')) :
    List.Forall₂ Step.SameComplaint steps steps' := by
  induction alike generalizing hub hub' with
  | nil => exact .nil
  | cons first _ ih =>
    cases looks with
    | cons here rest => exact .cons (complaint_of_looksLike first here) (ih rest)

/-- Passwords stay secret, but for one complaint. Take two runs of a fresh hub that differ only in passwords and in
the hasher, such that the same registrations have a password that is too short, and a registration and a login have
matching passwords in one run when they do in the other. Then every step has the same result apart from the hash of a
password, and shows the same replies, the same log lines and the same chat log, exactly if each two registrations
complain in the same words that their password cannot be encoded, or not at all. -/
theorem passwords_stay_secret {steps steps' : List Step} (alike : List.Forall₂ Step.SameButPassword steps steps')
    (same : SameMatches steps steps') {hasher hasher' : Hasher} (exact : hasher.Exact) (exact' : hasher'.Exact)
    (maxHistory : Nat) (maxPrivateHistory : Int) (cache : Rates.Cache) (surroundings : BuiltIn.Surroundings)
    (chatLog : ChatLog) :
    let start := create (.empty hasher maxHistory maxPrivateHistory) cache surroundings chatLog
    let start' := create (.empty hasher' maxHistory maxPrivateHistory) cache surroundings chatLog
    (List.Forall₂ Turn.LooksLike (start.turns steps) (start'.turns steps') ↔
      List.Forall₂ Step.SameComplaint steps steps') ∧
    (List.Forall₂ Step.SameComplaint steps steps' →
      (start'.advance steps').chatLog = (start.advance steps).chatLog) := by
  intro start start'
  have disguise : Disguise (ChosenTogether steps steps') ⟨hasher', fun _ => ""⟩ start start' :=
    ⟨(Store.consistent_empty hasher maxHistory maxPrivateHistory).toLinked, exact, exact', rfl,
      fun _ _ found => by cases found⟩
  refine ⟨⟨complaints_of_looksLike alike, fun complaints => ?_⟩, fun complaints => ?_⟩
  · exact (looksLike_turns (follows_of_sameMatches alike complaints same) disguise).1
  · obtain ⟨-, sealing, last⟩ := looksLike_turns (follows_of_sameMatches alike complaints same) disguise
    rw [last.second]
    rfl

/-- A registration, a login with the same password, and one without any. -/
def visit (password : Text) : List Step :=
  [⟨⟨1⟩, "first", .register (some "alice") (some "a@x") (some password)⟩,
   ⟨⟨2⟩, "first", .login (some "alice") (some password)⟩,
   ⟨⟨3⟩, "second", .login (some "alice") none⟩]

/-- No step of a visit with a string for a password complains. -/
theorem visit_quiet (password : String) {step : Step} (listed : step ∈ visit password) (fault : EncodeFault) :
    ¬ step.Raises fault := by
  rintro ⟨username, email, chosen, registers, -, failed⟩
  simp only [visit, List.mem_cons, List.not_mem_nil, or_false] at listed
  rcases listed with rfl | rfl | rfl
  · cases registers
    rw [Option.getD_some, Password.digest?_ofString] at failed
    cases failed
  · cases registers
  · cases registers

theorem passwords_stay_secret_of_visits :
    let start := create (.empty .plain 10 10) (.empty 60 Instant.uptime) ⟨[], []⟩ .default
    List.Forall₂ Step.SameButPassword (visit "secret") (visit "hidden") ∧
      SameMatches (visit "secret") (visit "hidden") ∧
      List.Forall₂ Turn.LooksLike (start.turns (visit "secret")) (start.turns (visit "hidden")) ∧
      (start.advance (visit "hidden")).chatLog = (start.advance (visit "secret")).chatLog := by
  intro start
  have alike : List.Forall₂ Step.SameButPassword (visit "secret") (visit "hidden") :=
    .cons (.register (by decide)) (.cons .login (.cons (.same _) .nil))
  have empty : Password.digest "secret" ≠ Password.digest "" ∧ Password.digest "hidden" ≠ Password.digest "" := by
    decide +kernel
  have same : SameMatches (visit "secret") (visit "hidden") := by
    simp [SameMatches, visit, Step.chosen?, Step.offered?, Password.SameDigest, empty]
  have complaints : List.Forall₂ Step.SameComplaint (visit "secret") (visit "hidden") := by
    refine List.forall₂_iff_zip.2 ⟨rfl, fun {step step'} here message => iff_of_false ?_ ?_⟩
    · rintro ⟨fault, raises, -⟩
      exact visit_quiet "secret" (List.of_mem_zip here).1 fault raises
    · rintro ⟨fault, raises, -⟩
      exact visit_quiet "hidden" (List.of_mem_zip here).2 fault raises
  obtain ⟨looks, logs⟩ := passwords_stay_secret alike same Hasher.plain_exact Hasher.plain_exact 10 10
    (.empty 60 Instant.uptime) ⟨[], []⟩ .default
  exact ⟨alike, same, looks.2 complaints, logs complaints⟩

/-- Two registrations with passwords of the same length, one of them with a half of a UTF-16 pair: nobody logs in, and
yet the runs do not look alike. -/
theorem half_password_shows :
    let start := create (.empty .plain 10 10) (.empty 60 Instant.uptime) ⟨[], []⟩ .default
    let join (password : Text) : List Step := [⟨⟨1⟩, "c", .register (some "ann") (some "a@x") (some password)⟩]
    let one := join (.half 0 :: Text.ofString "aaaaaa")
    let other := join (Text.ofString "aaaaaaa")
    List.Forall₂ Step.SameButPassword one other ∧ SameMatches one other ∧
      ¬ List.Forall₂ Turn.LooksLike (start.turns one) (start.turns other) := by
  intro start join one other
  refine ⟨.cons (.register (by decide)) .nil, ?_, fun looks => ?_⟩
  · simp [SameMatches, one, other, join, Step.offered?]
  · cases looks with
    | cons here =>
      have lengths := congrArg List.length here.sights
      revert lengths
      decide +kernel

end Hub

end ChatService
