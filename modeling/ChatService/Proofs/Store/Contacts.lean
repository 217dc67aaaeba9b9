import Mathlib.Data.List.Forall2
import ChatService.Proofs.Store.Accounts

/-!
# Contacts as a function of the history

A contact is kept as the identity of an account, with the name under which it was added. Names never
change hands, so the contacts of an account are the names that it added: each once, in the order of its
first time. What is shown of a contact is not kept at all but looked up whenever the list is asked for.
-/

namespace ChatService

namespace Store

variable {s s' : Store} {now : Instant} {log : List Event}

/-! ## Reading the log -/

/-- The name that a step adds to the contacts of an account, also when it was there before. -/
def Event.added? (owner : Id) (e : Event) : Option Text :=
  match e.operation, e.answer with
  | .addContact account target, .added _ => if account.id = owner then target else none
  | _, _ => none

/-- The names that an account added in a log, in the order of adding. -/
def addedBy (owner : Id) (log : List Event) : List Text := log.filterMap (Event.added? owner)

theorem addedBy_concat (owner : Id) (log : List Event) (e : Event) :
    addedBy owner (log ++ [e]) = addedBy owner log ++ (e.added? owner).toList := by
  rw [addedBy, List.filterMap_append]
  cases added : e.added? owner <;> simp [added, addedBy]

/-! ## The contacts of a store -/

/-- What is repeated at the end of a list is dropped. -/
theorem eraseDups_concat (l : List Text) (name : Text) :
    (l ++ [name]).eraseDups = if name ∈ l then l.eraseDups else l.eraseDups ++ [name] := by
  rw [List.eraseDups_append]
  split
  · next repeated => simp [List.removeAll, repeated]
  · next new => simp [List.removeAll, new, List.eraseDups_cons]

/-- The contacts of a store are those that were added, each once and in the order of its first time. Each
leads to the account with the name. -/
structure Lists (s : Store) (added : Id → List Text) : Prop where
  names (owner : Id) : (s.contacts.filter (·.owner = owner)).map (·.displayName) = (added owner).eraseDups
  known : ∀ c ∈ s.contacts, s.byUsername.find? c.displayName = some c.target

theorem lists_empty (hasher : Hasher) (maxHistory : Nat) (maxPrivateHistory : Int) :
    Lists (.empty hasher maxHistory maxPrivateHistory) fun _ => [] := ⟨fun _ => rfl, by simp [empty]⟩

/-- The contacts of two stores are the same, and no name of the first changed hands. -/
structure SameContacts (s s' : Store) : Prop where
  contacts : s'.contacts = s.contacts
  names {name : Text} {id : Id} : s.byUsername.find? name = some id → s'.byUsername.find? name = some id

theorem SameContacts.refl (s : Store) : SameContacts s s := ⟨rfl, id⟩

theorem OnlySessions.sameContacts (only : OnlySessions s s') : SameContacts s s' := by
  rw [only]
  exact ⟨rfl, id⟩

theorem sameContacts_register {username email password : Option Text} {u : User}
    (ok : s.register now username email password = .ok (u, s')) : SameContacts s s' := by
  obtain ⟨-, -, -, -, -, -, -, -, -, free, -, rfl⟩ := register_ok ok
  refine ⟨rfl, fun {name id} listed => ?_⟩
  have other : name ≠ u.username := fun same => by rw [same, free] at listed; cases listed
  rw [Table.find?_insert, if_neg other, listed]

theorem sameContacts_sendPrivate {sender : Id} {recipient text : Option Text} {m : PrivateMessage}
    (ok : s.sendPrivate now sender recipient text = .ok (m, s')) : SameContacts s s' := by
  obtain ⟨-, -, -, -, -, -, -, -, rfl⟩ := sendPrivate_ok ok
  exact ⟨rfl, id⟩

theorem Lists.of_same {added : Id → List Text} (lists : Lists s added) (same : SameContacts s s') :
    Lists s' added where
  names owner := by rw [same.contacts, lists.names]
  known c member := same.names (lists.known c (same.contacts ▸ member))

/-- A name is among those that an account added when the account that has it is among its contacts. -/
theorem Lists.mem_iff {added : Id → List Text} (linked : Linked s) (lists : Lists s added) {owner id : Id}
    {name : Text} (named : s.byUsername.find? name = some id) :
    name ∈ added owner ↔ ∃ c ∈ s.contacts, c.owner = owner ∧ c.target = id := by
  rw [← List.mem_eraseDups, ← lists.names owner]
  simp only [List.mem_map, List.mem_filter, decide_eq_true_eq]
  constructor
  · rintro ⟨c, ⟨member, mine⟩, rfl⟩
    have target := lists.known c member
    rw [named, Option.some.injEq] at target
    exact ⟨c, member, mine, target.symm⟩
  · rintro ⟨c, member, mine, rfl⟩
    exact ⟨c, ⟨member, mine⟩, linked.byUsername.injective (lists.known c member) named⟩

/-- A contact that is added goes to the end of the list of its owner, unless it is there. -/
theorem Lists.add {added : Id → List Text} (linked : Linked s) (lists : Lists s added) {owner : Id}
    {target : Option Text} {new : Bool} (ok : s.addContact now owner target = .ok (new, s')) :
    Lists s' fun account => added account ++ (if owner = account then target else none).toList := by
  obtain ⟨id, listed, -, outcome⟩ := addContact_ok ok
  obtain ⟨name, rfl, named⟩ := Option.bind_eq_some_iff.1 listed
  have mine : name ∈ added owner ↔ _ := lists.mem_iff linked named
  -- Whether the account is among the contacts is whether its name is among those added: names lead to one account.
  rcases outcome with ⟨-, rfl, present⟩ | ⟨-, absent, rfl⟩
  · refine ⟨fun account => ?_, lists.known⟩
    split
    · next here =>
      subst here
      rw [Option.toList_some, eraseDups_concat, if_pos (mine.2 present), lists.names]
    · rw [Option.toList_none, List.append_nil, lists.names]
  · refine ⟨fun account => ?_, fun c member => ?_⟩
    · rw [List.filter_append, List.map_append, lists.names]
      split
      · next here =>
        subst here
        have unlisted : name ∉ added owner := by simpa using mt mine.1 (by simpa using absent)
        rw [Option.toList_some, eraseDups_concat, if_neg unlisted]
        simp [optionalText]
      · next other => simp [other]
    · rcases List.mem_append.1 member with old | last
      · exact lists.known c old
      · rw [List.mem_singleton] at last
        subst last
        exact named

/-- Only adding a contact changes the contacts. -/
theorem sameContacts_perform (s : Store) (now : Instant) {operation : Operation}
    (other : ∀ account target, operation ≠ .addContact account target) :
    SameContacts s (s.perform now operation).2 := by
  apply perform_cases (P := SameContacts s)
  · exact .refl s
  · intro _ _ _ _ _ _ ok
    exact sameContacts_register ok
  · intro _ _ _ _ _ _ ok
    exact (onlySessions_login ok).sameContacts
  · intro connection _
    exact (onlySessions_disconnect s now connection).sameContacts
  · intro _ _ _
    exact ⟨rfl, id⟩
  · intro _ _ _ _ _ _ ok
    exact sameContacts_sendPrivate ok
  · intro account target _ _ asked
    exact absurd asked (other account target)

/-- Each step of a run adds the name that its log shows. -/
theorem lists_perform {added : Id → List Text} (linked : Linked s) (lists : Lists s added) (now : Instant)
    (operation : Operation) :
    Lists (s.perform now operation).2 fun owner =>
      added owner ++ (Event.added? owner ⟨now, operation, (s.perform now operation).1⟩).toList := by
  cases operation with
  | addContact account target =>
    cases result : s.addContact now account.id target with
    | error refusal => simpa [perform, settle, result, Event.added?] using lists
    | ok value => simpa [perform, settle, result, Event.added?] using lists.add linked result
  | _ =>
    simp only [Event.added?, Option.toList_none, List.append_nil]
    exact lists.of_same (sameContacts_perform s now (by rintro _ _ ⟨⟩))

theorem Run.lists {hasher : Hasher} {maxHistory : Nat} {maxPrivateHistory : Int}
    (run : Run (.empty hasher maxHistory maxPrivateHistory) log s) : Lists s fun owner => addedBy owner log := by
  induction run with
  | nothing => exact lists_empty hasher maxHistory maxPrivateHistory
  | @step log s s' now operation answer earlier permitted performed ih =>
    have linked := (earlier.linked (consistent_empty hasher maxHistory maxPrivateHistory).toLinked).1
    have after := lists_perform linked ih now operation
    rw [performed] at after
    simpa only [addedBy_concat] using after

/-! ## What is shown -/

/-- An entry under a name in the contacts of an account: the other account that has the name, as it is at the
moment. -/
def Shows (s : Store) (owner : Id) (name : Text) (entry : ContactStatus) : Prop :=
  ∃ u, s.user? (some name) = some u ∧ u.username = name ∧ u.id ≠ owner ∧
    entry = ⟨u.username, u.isOnline, u.lastSeen⟩

/-- The contacts of an account show what it added, one entry for each name. -/
theorem Lists.shows {added : Id → List Text} (linked : Linked s) (lists : Lists s added) (owner : Id) :
    List.Forall₂ (s.Shows owner) (added owner).eraseDups (s.contactsOf owner) := by
  rw [← lists.names owner, contactsOf]
  have sublist : s.contacts.filter (·.owner = owner) ⊆ s.contacts := List.filter_sublist.subset
  have mine (c : Contact) (member : c ∈ s.contacts.filter (·.owner = owner)) : c.owner = owner := by
    simpa using (List.mem_filter.1 member).2
  -- The induction is on the contacts of the owner alone, as part of all contacts.
  generalize s.contacts.filter (·.owner = owner) = contacts at sublist mine
  induction contacts with
  | nil => exact .nil
  | cons c rest ih =>
    have member := sublist (List.mem_cons_self ..)
    obtain ⟨u, found, named⟩ := (linked.byUsername _ _).1 (lists.known c member)
    have shown : s.user? (some c.displayName) = some u :=
      user?_eq_some_iff.2 ⟨_, _, rfl, lists.known c member, found⟩
    have other : u.id ≠ owner := by
      rw [linked.keyed found, ← mine c (List.mem_cons_self ..)]
      exact (linked.contacts c member).1.symm
    rw [List.map_cons, List.filterMap_cons, found, Option.map_some]
    exact .cons ⟨u, shown, named, other, rfl⟩
      (ih (fun _ later => sublist (List.mem_cons_of_mem _ later)) fun c later => mine c (List.mem_cons_of_mem _ later))

/-- A name that was added is answered as known, and nothing changes. -/
theorem Lists.add_again {added : Id → List Text} (linked : Linked s) (lists : Lists s added) {owner : Id}
    {name : Text} (member : name ∈ added owner) (now : Instant) :
    s.addContact now owner (some name) = .ok (false, s) := by
  rw [← List.mem_eraseDups, ← lists.names owner] at member
  obtain ⟨c, listed, rfl⟩ := List.mem_map.1 member
  obtain ⟨kept, mine⟩ := List.mem_filter.1 listed
  have mine : c.owner = owner := by simpa using mine
  have other : c.target ≠ owner := mine ▸ (linked.contacts c kept).1.symm
  have present : (s.contacts.any fun d => decide (d.owner = owner ∧ d.target = c.target)) = true := by
    simpa using ⟨c, kept, mine, rfl⟩
  simp only [addContact, Option.bind_some, lists.known c kept, if_neg other, present, if_true]

/-- Adding to the contacts of one account leaves those of the others. -/
theorem contactsOf_addContact {owner other : Id} (apart : other ≠ owner) {target : Option Text} {new : Bool}
    (ok : s.addContact now owner target = .ok (new, s')) : s'.contactsOf other = s.contactsOf other := by
  obtain ⟨id, -, -, ⟨-, rfl, -⟩ | ⟨-, -, rfl⟩⟩ := addContact_ok ok
  · rfl
  · simp [contactsOf, draw, List.filter_append, apart.symm]

end Store

end ChatService
