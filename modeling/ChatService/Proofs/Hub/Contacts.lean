import ChatService.Proofs.Hub.Commands
import ChatService.Proofs.Store.Contacts

/-!
# Contacts over a run

The contacts of an account are what it added while it was logged in, wherever that was. The request for
the contacts and the command show one and the same list, with everybody as they are at the moment.
-/

namespace ChatService

open Effect (sent)

namespace Hub

variable {hub : Hub}

/-! ## What is added -/

/-- The name that a step adds to the contacts of an account, also when it was there before: the account is logged
in where the step comes from, and the step is acknowledged. -/
def added? (hub : Hub) (owner : Id) (step : Step) : Option Text :=
  match step.operation, hub.store.session? step.connection with
  | .addContact target, some u =>
    if u.id = owner ∧ (hub.addContact step.time step.connection target).value = true then target else none
  | _, _ => none

/-- The name that a turn adds to the contacts of an account. -/
def Turn.added? (owner : Id) (turn : Turn) : Option Text := turn.hub.added? owner turn.step

/-- The names that an account added in some turns, in the order of adding. -/
def addedBy (owner : Id) (turns : List Turn) : List Text := turns.filterMap (Turn.added? owner)

/-! ## Steps and runs -/

/-- Only adding a contact changes the contacts. -/
theorem sameContacts_perform (hub : Hub) {step : Step} (other : ∀ target, step.operation ≠ .addContact target) :
    hub.store.SameContacts (hub.perform step).hub.store := by
  apply perform_store (P := hub.store.SameContacts)
  · exact .refl hub.store
  · intro _ _ _ _ _ _ ok
    exact Store.sameContacts_register ok
  · intro _ _ _ _ _ ok
    exact (Store.onlySessions_login ok).sameContacts
  · intro _
    exact (Store.onlySessions_disconnect ..).sameContacts
  · intro _ _ _ _
    exact ⟨rfl, id⟩
  · intro _ _ _ _ _ _ _ ok
    exact Store.sameContacts_sendPrivate ok
  · intro target _ _ _ asked
    exact absurd asked (other target)

/-- Each step adds the name that it is acknowledged for, to the contacts of the account that asked. -/
theorem lists_perform {added : Id → List Text} (linked : hub.store.Linked) (lists : hub.store.Lists added)
    (step : Step) :
    (hub.perform step).hub.store.Lists fun owner => added owner ++ (hub.added? owner step).toList := by
  obtain ⟨now, connection, operation⟩ := step
  cases operation with
  | addContact target =>
    cases session : hub.store.session? connection with
    | none => simpa [perform, Done.of, added?, Hub.addContact, refuse, session] using lists
    | some u =>
      cases result : hub.store.addContact now u.id target with
      | error refusal => simpa [perform, Done.of, added?, Hub.addContact, refuse, session, result] using lists
      | ok value =>
        simpa [perform, Done.of, added?, Hub.addContact, session, result] using lists.add linked result
  | _ =>
    simp only [added?, Option.toList_none, List.append_nil]
    exact lists.of_same (sameContacts_perform hub (by rintro _ ⟨⟩))

theorem lists_advance {added : Id → List Text} (linked : hub.store.Linked) (lists : hub.store.Lists added)
    (steps : List Step) :
    (hub.advance steps).store.Lists fun owner => added owner ++ addedBy owner (hub.turns steps) := by
  induction steps generalizing hub added with
  | nil => simpa [advance, turns, addedBy] using lists
  | cons step rest ih =>
    have later := ih (linked_perform linked step) (lists_perform linked lists step)
    have first (owner : Id) : addedBy owner (hub.turns (step :: rest)) =
        (hub.added? owner step).toList ++ addedBy owner ((hub.perform step).hub.turns rest) := by
      rw [turns, addedBy, List.filterMap_cons]
      cases added : hub.added? owner step <;> simp [Turn.added?, added, addedBy]
    simp only [List.append_assoc, ← first] at later
    exact later

/-! ## What is shown -/

/-- The contacts of whoever is logged in on a connection, as the command shows them. -/
theorem perform_contacts (hub : Hub) (now : Instant) {connection : String} {u : User} {text : Text}
    (session : hub.store.session? connection = some u) (calls : BuiltIn.Calls .contacts text) :
    sent (hub.perform ⟨now, connection, .message (some text)⟩).effects =
      [.caller connection (.system
        (if hub.store.contactsOf u.id = [] then "📇 You have no contacts yet"
        else Text.join "\n" ("📇 Contacts:" :: (hub.store.contactsOf u.id).map BuiltIn.contactLine)) now)] := by
  obtain ⟨token, arguments, selected⟩ := calls.select
  obtain ⟨reply, only, ends⟩ := perform_command calls.isCommand hub now connection
  obtain ⟨rfl, -⟩ := ends token .contacts arguments selected
  rw [only]
  simp only [BuiltIn.run, session, BuiltIn.contactsReply, BuiltIn.Ending.reply]
  cases hub.store.contactsOf u.id with
  | nil => rfl
  | cons entry rest => rfl

/-- Contacts follow the history. After every run of a store, the contacts of an account have one entry for each
name that it added, in the order of the first time, and each entry is the other account with that name, as it is
now. Adding such a name again is answered with false and leaves the store as it is, and adding to the contacts of one
account leaves those of every other. The same holds after every run of the hub for what an account added while it
was logged in; and to whoever is logged in, the request for the contacts and the command show this one list. -/
theorem contacts_follow_history (hasher : Hasher) (maxHistory : Nat) (maxPrivateHistory : Int) :
    (∀ log s, Store.Run (.empty hasher maxHistory maxPrivateHistory) log s →
      (∀ owner, List.Forall₂ (s.Shows owner) (Store.addedBy owner log).eraseDups (s.contactsOf owner)) ∧
      (∀ now owner, ∀ name ∈ Store.addedBy owner log, s.addContact now owner (some name) = .ok (false, s)) ∧
      ∀ now owner target new s', s.addContact now owner target = .ok (new, s') →
        ∀ other ≠ owner, s'.contactsOf other = s.contactsOf other) ∧
    ∀ cache surroundings chatLog steps,
      let start := create (.empty hasher maxHistory maxPrivateHistory) cache surroundings chatLog
      let hub := start.advance steps
      (∀ owner, List.Forall₂ (hub.store.Shows owner) (addedBy owner (start.turns steps)).eraseDups
        (hub.store.contactsOf owner)) ∧
      ∀ now connection u, hub.store.session? connection = some u →
        let entries := hub.store.contactsOf u.id
        (∀ name ∈ addedBy u.id (start.turns steps),
          (hub.perform ⟨now, connection, .addContact (some name)⟩).hub = hub) ∧
        sent (hub.perform ⟨now, connection, .getContacts⟩).effects = [.caller connection (.contacts entries)] ∧
        ∀ text, BuiltIn.Calls .contacts text →
          sent (hub.perform ⟨now, connection, .message (some text)⟩).effects =
            [.caller connection (.system
              (if entries = [] then "📇 You have no contacts yet"
              else Text.join "\n" ("📇 Contacts:" :: entries.map BuiltIn.contactLine)) now)] := by
  have fresh := (Store.consistent_empty hasher maxHistory maxPrivateHistory).toLinked
  refine ⟨fun log s run => ?_, fun cache surroundings chatLog steps => ?_⟩
  · obtain ⟨linked, -⟩ := run.linked fresh
    refine ⟨run.lists.shows linked, fun now owner name member => run.lists.add_again linked member now, ?_⟩
    intro now owner target new s' ok other apart
    exact Store.contactsOf_addContact apart ok
  · intro start hub
    have linked : hub.store.Linked := linked_advance fresh steps
    have nobody : start.store.Lists fun _ => [] := Store.lists_empty hasher maxHistory maxPrivateHistory
    have lists : hub.store.Lists fun owner => addedBy owner (start.turns steps) := lists_advance fresh nobody steps
    refine ⟨lists.shows linked, fun now connection u session => ⟨fun name member => ?_, ?_, ?_⟩⟩
    · simp only [perform, Done.of, Hub.addContact, session, lists.add_again linked member now]
    · simp [perform, Done.of, Hub.getContacts, session]
    · intro text calls
      exact perform_contacts hub now session calls

/-- Three accounts, one of which adds the other two and the first of them again. -/
def acquaintance : List Step :=
  [⟨⟨1⟩, "c", .register (some "ann") (some "a@x") (some "secret")⟩,
   ⟨⟨2⟩, "c", .register (some "eve") (some "e@x") (some "secret")⟩,
   ⟨⟨3⟩, "c", .register (some "bob") (some "b@x") (some "secret")⟩, ⟨⟨4⟩, "a", .login (some "ann") (some "secret")⟩,
   ⟨⟨5⟩, "a", .addContact (some "eve")⟩, ⟨⟨6⟩, "a", .addContact (some "bob")⟩,
   ⟨⟨7⟩, "a", .addContact (some "eve")⟩, ⟨⟨8⟩, "b", .login (some "bob") (some "secret")⟩]

/-- Who was added twice is shown once, before who was added in between; and who came online since is online. -/
theorem contacts_follow_history_of_acquaintance :
    let start := create (.empty .plain 5 5) (.empty 60 Instant.uptime) ⟨[], []⟩ .default
    let hub := start.advance acquaintance
    addedBy (Id.ofNumber 1) (start.turns acquaintance) = ["eve", "bob", "eve"] ∧
    List.Forall₂ (hub.store.Shows (Id.ofNumber 1)) ["eve", "bob"] (hub.store.contactsOf (Id.ofNumber 1)) ∧
    sent (hub.perform ⟨⟨9⟩, "a", .message (some "/Contacts")⟩).effects =
      [.caller "a" (.system "📇 Contacts:\n⚪ eve (last seen 1970-01-01 00:00 UTC)\n🟢 bob" ⟨9⟩)] ∧
    ∃ log s, Store.Run (.empty .plain 5 5) log s ∧ log.length = 4 ∧
      List.Forall₂ (s.Shows (Id.ofNumber 1)) ["eve"] (s.contactsOf (Id.ofNumber 1)) := by
  intro start hub
  let ann : User := ⟨Id.ofNumber 1, "ann", "a@x", Hasher.plain.hash 0 (Password.digest "secret"), false, none, ⟨1⟩, ⟨1⟩⟩
  obtain ⟨ofStore, ofHub⟩ := contacts_follow_history .plain 5 5
  obtain ⟨lists, shown⟩ := ofHub (.empty 60 Instant.uptime) ⟨[], []⟩ .default acquaintance
  have added : addedBy (Id.ofNumber 1) (start.turns acquaintance) = ["eve", "bob", "eve"] := by decide +kernel
  have session : hub.store.session? "a" = some (ann.onlineOn ⟨4⟩ "a") := by decide +kernel
  have calls : BuiltIn.Calls .contacts "/Contacts" :=
    ⟨by decide +kernel, "/Contacts", [], by decide +kernel, (.contacts, ["contacts", "контакты"]), by decide, rfl,
      "contacts", by decide, by decide +kernel⟩
  obtain ⟨-, -, command⟩ := shown ⟨9⟩ "a" _ session
  refine ⟨added, ?_, ?_, ?_⟩
  · have entries := lists (Id.ofNumber 1)
    rwa [show addedBy (Id.ofNumber 1) _ = _ from added] at entries
  · rw [show hub = start.advance acquaintance from rfl, command "/Contacts" calls]
    decide +kernel
  · have run : Store.Run (.empty .plain 5 5) [] (.empty .plain 5 5) := .nothing
    have run := run.extend ⟨1⟩ (.register (some "ann") (some "a@x") (some "secret")) trivial
    have run := run.extend ⟨2⟩ (.register (some "eve") (some "e@x") (some "secret")) trivial
    have run := run.extend ⟨3⟩ (.addContact ann (some "eve")) (by decide +kernel)
    have run := run.extend ⟨4⟩ (.login (some "eve") (some "secret") "c") trivial
    obtain ⟨lists, -⟩ := ofStore _ _ run
    have entries := lists (Id.ofNumber 1)
    rw [show Store.addedBy _ _ = ["eve"] by decide +kernel] at entries
    exact ⟨_, _, run, rfl, entries⟩

end Hub

end ChatService
