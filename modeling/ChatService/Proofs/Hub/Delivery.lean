import ChatService.Proofs.Hub.Conduct
import ChatService.Proofs.Hub.Confidentiality
import ChatService.Proofs.Store.Conversation

/-!
# Delivery of private messages

A private message that is accepted is shown to its sender and, once, to a recipient who is
online. From then on both sides find the very same record in their conversation, wherever
they are logged in, until so many messages come after it that it is not shown any more.
-/

namespace ChatService

open Effect (sent)

/-! ## What stays -/

namespace Store

variable {s s' s'' : Store}

/-- Accounts and private messages are still there, and as many messages are shown. -/
structure Extends (s s' : Store) : Prop where
  accounts {id : Id} {u : User} : s.users.find? id = some u →
    ∃ u', s'.users.find? id = some u' ∧ u'.registered = u.registered
  messages : s.privateMessages <+: s'.privateMessages
  bound : s'.maxPrivateHistory = s.maxPrivateHistory

theorem Extends.refl (s : Store) : Extends s s :=
  ⟨fun found => ⟨_, found, rfl⟩, List.prefix_refl _, rfl⟩

theorem Extends.trans (first : Extends s s') (second : Extends s' s'') : Extends s s'' := by
  refine ⟨fun found => ?_, first.messages.trans second.messages, second.bound.trans first.bound⟩
  obtain ⟨u', found', same⟩ := first.accounts found
  obtain ⟨u'', found'', same'⟩ := second.accounts found'
  exact ⟨u'', found'', same'.trans same⟩

theorem Extends.of_sessions (only : OnlySessions s s') (same : SameAccounts s s') : Extends s s' := by
  rw [only]
  exact ⟨fun found => same.find found, List.prefix_refl _, rfl⟩

/-- An account with the same identity and name as one in a store is found by its name. -/
theorem user?_of_find? (linked : Linked s) {u : User} (found : s.users.find? u.id = some u) :
    s.user? (some u.username) = some u :=
  user?_eq_some_iff.2
    ⟨u.username, u.id, rfl, (linked.byUsername u.username u.id).2 ⟨u, found, rfl⟩, found⟩

end Store

namespace Hub

variable {hub : Hub}

theorem extends_perform (linked : hub.store.Linked) (step : Step) :
    hub.store.Extends (hub.perform step).hub.store := by
  apply perform_store hub step (P := hub.store.Extends)
  · exact .refl _
  · intro _ _ _ u _ _ ok
    obtain ⟨new, -, -, -, -, -, -, -, -, -, -, rfl⟩ := Store.register_ok ok
    refine ⟨fun {id v} found => ⟨v, ?_, rfl⟩, List.prefix_refl _, rfl⟩
    have fresh : hub.store.users.find? u.id = none := new ▸ Store.find?_nextId linked
    rw [Table.find?_insert, if_neg (fun same => by simp [same, fresh] at found), found]
  · intro _ _ _ _ _ ok
    exact .of_sessions (Store.onlySessions_login ok) (Store.sameAccounts_login linked ok)
  · intro _
    exact .of_sessions (Store.onlySessions_disconnect ..) (Store.sameAccounts_disconnect linked)
  · intro _ _ _ _
    exact ⟨fun found => ⟨_, found, rfl⟩, List.prefix_refl _, rfl⟩
  · intro _ _ _ _ _ _ _ ok
    obtain ⟨-, -, -, -, -, -, -, -, rfl⟩ := Store.sendPrivate_ok ok
    exact ⟨fun found => ⟨_, found, rfl⟩, List.prefix_append .., rfl⟩
  · intro _ _ _ _ _ _ ok
    obtain ⟨_, -, -, ⟨-, rfl, -⟩ | ⟨-, -, rfl⟩⟩ := Store.addContact_ok ok
    · exact .refl _
    · exact ⟨fun found => ⟨_, found, rfl⟩, List.prefix_refl _, rfl⟩

theorem extends_advance (linked : hub.store.Linked) (steps : List Step) :
    hub.store.Extends (hub.advance steps).store := by
  induction steps generalizing hub with
  | nil => exact .refl _
  | cons step rest ih => exact (extends_perform linked step).trans (ih (linked_perform linked step))

/-- A step leaves the private messages as they are, or one is sent. -/
theorem privateMessages_perform (hub : Hub) (step : Step) :
    (hub.perform step).hub.store.privateMessages = hub.store.privateMessages ∨
      ∃ sender recipient text m,
        hub.store.sendPrivate step.time sender recipient text = .ok (m, (hub.perform step).hub.store) := by
  apply perform_store hub step (P := fun s => s.privateMessages = hub.store.privateMessages ∨
    ∃ sender recipient text m, hub.store.sendPrivate step.time sender recipient text = .ok (m, s))
  · exact .inl rfl
  · intro _ _ _ _ _ _ ok
    obtain ⟨-, -, -, -, -, -, -, -, -, -, -, rfl⟩ := Store.register_ok ok
    exact .inl rfl
  · intro _ _ _ _ _ ok
    rw [Store.onlySessions_login ok]
    exact .inl rfl
  · intro _
    rw [Store.onlySessions_disconnect]
    exact .inl rfl
  · intro _ _ _ _
    exact .inl rfl
  · intro recipient text u m _ _ _ ok
    exact .inr ⟨u.id, recipient, text, m, ok⟩
  · intro _ _ _ _ _ _ ok
    obtain ⟨_, -, -, ⟨-, rfl, -⟩ | ⟨-, -, rfl⟩⟩ := Store.addContact_ok ok
    · exact .inl rfl
    · exact .inl rfl

theorem numbered_perform (numbered : hub.store.Numbered) (step : Step) :
    (hub.perform step).hub.store.Numbered := by
  rcases privateMessages_perform hub step with same | ⟨_, _, _, _, ok⟩
  · exact numbered.of_same same fun _ => drawn_perform hub step
  · exact Store.numbered_sendPrivate numbered ok

theorem numbered_advance (numbered : hub.store.Numbered) (steps : List Step) :
    (hub.advance steps).store.Numbered := by
  induction steps generalizing hub with
  | nil => exact numbered
  | cons step rest ih => exact ih (numbered_perform numbered step)

theorem Reachable.numbered (reachable : hub.Reachable) : hub.store.Numbered := by
  obtain ⟨hasher, maxHistory, maxPrivateHistory, cache, surroundings, chatLog, steps, rfl⟩ := reachable
  exact numbered_advance (Store.numbered_empty hasher maxHistory maxPrivateHistory) steps

theorem Reachable.advance (reachable : hub.Reachable) (steps : List Step) :
    (hub.advance steps).Reachable := by
  obtain ⟨hasher, maxHistory, maxPrivateHistory, cache, surroundings, chatLog, earlier, rfl⟩ := reachable
  exact ⟨hasher, maxHistory, maxPrivateHistory, cache, surroundings, chatLog, earlier ++ steps,
    (List.foldl_append ..).symm⟩

/-! ## Sending -/

variable {now : Instant} {connection : String} {recipient text : Option Text} {m : PrivateMessage}

/-- A private message is accepted from the account of the session, by the store. -/
theorem sendPrivate_of_value (accepted : (hub.sendPrivate now connection recipient text).value = some m) :
    ∃ a store, hub.store.session? connection = some a ∧
      hub.store.sendPrivate now a.id recipient text = .ok (m, store) := by
  cases session : hub.store.session? connection with
  | none => simp [Hub.sendPrivate, session, refuse] at accepted
  | some a =>
    cases result : hub.store.sendPrivate now a.id recipient text with
    | error refusal => simp [Hub.sendPrivate, session, result, refuse] at accepted
    | ok value =>
      simp only [Hub.sendPrivate, session, result, Option.some.injEq] at accepted
      exact ⟨a, value.2, rfl, by rw [result, ← accepted]⟩

/-- The recipient of a private message is the account with the name that was asked for, and not the sender. -/
theorem recipient_of_sendPrivate {s store : Store} (linked : s.Linked) {sender : Id}
    (ok : s.sendPrivate now sender recipient text = .ok (m, store)) :
    ∃ b, recipient = some b.username ∧ s.users.find? b.id = some b ∧ m.recipient = b.id ∧ sender ≠ b.id := by
  obtain ⟨-, bound, other, -⟩ := Store.sendPrivate_ok ok
  obtain ⟨name, rfl, listed⟩ := Option.bind_eq_some_iff.1 bound
  obtain ⟨b, stored, rfl⟩ := (linked.byUsername name m.recipient).1 listed
  have keyed := linked.keyed stored
  exact ⟨b, rfl, keyed ▸ stored, keyed.symm, keyed ▸ other.symm⟩

/-- What is sent when a private message is accepted. -/
theorem sent_sendPrivate {a : User} {store : Store} (session : hub.store.session? connection = some a)
    (ok : hub.store.sendPrivate now a.id recipient text = .ok (m, store)) :
    let d := delivery m a.username (optionalText recipient)
    sent (hub.perform ⟨now, connection, .sendPrivate recipient text⟩).effects =
      .caller connection (.privateMessage d) :: deliver hub.store connection (optionalText recipient) d := by
  intro d
  obtain ⟨-, -, -, -, -, -, -, -, kept⟩ := Store.sendPrivate_ok ok
  have same : deliver store connection (optionalText recipient) d =
      deliver hub.store connection (optionalText recipient) d := by
    rw [kept]
    rfl
  simp only [perform_sendPrivate_ok session ok, Effect.sent_append, Effect.sent_cons, ChatLog.sent_append, sent_deliver]
  rw [same]
  rfl

/-- A recipient who is online is on another connection, and gets the delivery there. -/
theorem deliver_eq {s : Store} (linked : s.Linked) {a b : User} (session : s.session? connection = some a)
    (found : s.user? (some b.username) = some b) (other : a.id ≠ b.id) (d : Delivery) :
    (b.isOnline = true → ∃ place, b.connection = some place ∧ place ≠ connection ∧
      deliver s connection b.username d = [.to place (.privateMessage d)]) ∧
    (b.isOnline = false → deliver s connection b.username d = []) := by
  obtain ⟨name, id, named, bound, stored⟩ := Store.user?_eq_some_iff.1 found
  have keyed := linked.keyed stored
  subst keyed
  unfold deliver
  rw [found]
  constructor
  · intro online
    obtain ⟨place, on⟩ := Option.isSome_iff_exists.1 ((linked.online_iff stored).1 online)
    have elsewhere : place ≠ connection := by
      rintro rfl
      obtain ⟨id, here, stored'⟩ := Store.session?_eq_some_iff.1 session
      rw [linked.anchored stored on, Option.some.injEq] at here
      exact other (by rw [linked.keyed stored', here])
    refine ⟨place, on, elsewhere, ?_⟩
    simp [on, online, elsewhere]
  · intro offline
    have unbound : b.connection = none := by
      rw [← Option.not_isSome_iff_eq_none, ← linked.online_iff stored, offline]
      exact Bool.false_ne_true
    simp only [unbound]

/-! ## Reading -/

/-- What the hub answers to somebody who asks for a conversation with an account. -/
theorem effects_getPrivateHistory {u partner : User} (session : hub.store.session? connection = some u)
    (found : hub.store.user? (some partner.username) = some partner) :
    (hub.perform ⟨now, connection, .getPrivateHistory (some partner.username)⟩).effects =
      [.caller connection (.privateHistory partner.username
        ((hub.store.privateHistory u.id partner.id).map fun n =>
          delivery n (nameOf u partner n.sender) (nameOf u partner n.recipient)))] := by
  simp only [perform, Done.of, Hub.getPrivateHistory, session, found]

/-- The parties of a message of a conversation. -/
theorem parties_of_between {a b : Id} {n : PrivateMessage} (ours : Store.between a b n = true) :
    n.sender = a ∧ n.recipient = b ∨ n.sender = b ∧ n.recipient = a := by
  simp only [Store.between, decide_eq_true_eq] at ours
  exact ours.1

/-- The conversation of two accounts, with their names. -/
def conversationOf (s : Store) (a b : User) : List Delivery :=
  (s.privateHistory a.id b.id).map fun n => delivery n (nameOf a b n.sender) (nameOf a b n.recipient)

theorem conversationOf_comm (s : Store) {a b : User} (differ : a.id ≠ b.id) :
    conversationOf s b a = conversationOf s a b := by
  unfold conversationOf
  rw [Store.privateHistory_comm]
  refine List.map_congr_left fun n shown => ?_
  have ours := (Store.mem_of_mem_privateHistory shown).2
  rcases parties_of_between ours with ⟨sender, recipient⟩ | ⟨sender, recipient⟩
  · simp [nameOf, sender, recipient, differ, differ.symm]
  · simp [nameOf, sender, recipient, differ, differ.symm]

/-- Only what stays of the accounts forever shows in their conversation. -/
theorem conversationOf_eq (s : Store) {a b a' b' : User} (same : a'.registered = a.registered)
    (same' : b'.registered = b.registered) : conversationOf s a' b' = conversationOf s a b := by
  obtain ⟨id, name, -⟩ := User.eq_of_registered same
  obtain ⟨id', name', -⟩ := User.eq_of_registered same'
  simp only [conversationOf, nameOf, id, name, id', name']

/-- Whoever of two accounts asks for the conversation with the other one is shown the same. -/
theorem effects_of_party (linked : hub.store.Linked) {a b a' b' u partner : User} (differ : a.id ≠ b.id)
    (stored : hub.store.users.find? a.id = some a') (same : a'.registered = a.registered)
    (stored' : hub.store.users.find? b.id = some b') (same' : b'.registered = b.registered)
    (session : hub.store.session? connection = some u)
    (asks : u.id = a.id ∧ partner = b ∨ u.id = b.id ∧ partner = a) :
    (hub.perform ⟨now, connection, .getPrivateHistory (some partner.username)⟩).effects =
      [.caller connection (.privateHistory partner.username (conversationOf hub.store a b))] := by
  have known := find?_of_session? linked session
  obtain ⟨id, name, -⟩ := User.eq_of_registered same
  obtain ⟨id', name', -⟩ := User.eq_of_registered same'
  rcases asks with ⟨mine, rfl⟩ | ⟨mine, rfl⟩
  · rw [mine, stored, Option.some.injEq] at known
    subst known
    have found := Store.user?_of_find? linked (id'.symm ▸ stored')
    rw [← name', effects_getPrivateHistory session found, ← conversationOf_eq _ same same', conversationOf]
  · rw [mine, stored', Option.some.injEq] at known
    subst known
    have found := Store.user?_of_find? linked (id.symm ▸ stored)
    rw [← name, effects_getPrivateHistory session found, ← conversationOf_comm _ differ,
      ← conversationOf_eq _ same' same, conversationOf]

theorem mem_conversationOf {s : Store} {a b : User} (differ : a.id ≠ b.id) {e : Delivery}
    (shown : e ∈ conversationOf s a b) :
    ∃ n ∈ s.privateMessages, Store.between a.id b.id n = true ∧
      (n.sender = a.id ∧ e = delivery n a.username b.username ∨
        n.sender = b.id ∧ e = delivery n b.username a.username) := by
  obtain ⟨n, member, rfl⟩ := List.mem_map.1 shown
  obtain ⟨sent, ours⟩ := Store.mem_of_mem_privateHistory member
  refine ⟨n, sent, ours, ?_⟩
  rcases parties_of_between ours with ⟨sender, recipient⟩ | ⟨sender, recipient⟩
  · exact .inl ⟨sender, by simp [nameOf, sender, recipient, differ]⟩
  · exact .inr ⟨sender, by simp [nameOf, sender, recipient, differ]⟩

/-- A message between two accounts is shown in their conversation, once, as long as few enough come after it. -/
theorem filter_conversationOf {s : Store} (numbered : s.Numbered) {a b : User} (differ : a.id ≠ b.id)
    (member : m ∈ s.privateMessages) (sender : m.sender = a.id) (recipient : m.recipient = b.id)
    (positive : 0 < s.maxPrivateHistory) :
    (conversationOf s a b).filter (fun e => decide (e.id = m.id)) =
      if (s.behind m).length < s.maxPrivateHistory then [delivery m a.username b.username] else [] := by
  have ours : Store.between a.id b.id m = true := by simp [Store.between, sender, recipient, differ]
  rw [conversationOf, List.filter_map]
  have shown := Store.filter_privateHistory numbered member ours positive
  simp only [Function.comp_def, delivery]
  rw [shown]
  split
  · simp [nameOf, sender, recipient, differ]
  · rfl

/-- Whoever of the two sides asks for the conversation later on is shown the message among those between the
two, once, as long as few enough come after it. -/
theorem shown_to_party {s : Store} (reachable : hub.Reachable) (since : s.Extends hub.store) {a b u partner : User}
    (differ : a.id ≠ b.id) (stored : s.users.find? a.id = some a) (stored' : s.users.find? b.id = some b)
    (member : m ∈ hub.store.privateMessages) (sender : m.sender = a.id) (recipient : m.recipient = b.id)
    (session : hub.store.session? connection = some u)
    (asks : u.id = a.id ∧ partner = b ∨ u.id = b.id ∧ partner = a) :
    ∃ shown,
      sent (hub.perform ⟨now, connection, .getPrivateHistory (some partner.username)⟩).effects =
        [.caller connection (.privateHistory partner.username shown)] ∧
      (∀ e ∈ shown, ∃ n ∈ hub.store.privateMessages, Store.between a.id b.id n = true ∧
        (n.sender = a.id ∧ e = delivery n a.username b.username ∨
          n.sender = b.id ∧ e = delivery n b.username a.username)) ∧
      (0 < s.maxPrivateHistory →
        shown.filter (fun e => decide (e.id = m.id)) =
          if (hub.store.behind m).length < s.maxPrivateHistory then [delivery m a.username b.username]
          else []) := by
  -- Sessions, presence and contacts may all have changed since: what the conversation shows depends on the
  -- messages, which only grow, and on the parts of the two accounts that stay.
  obtain ⟨a', here, same⟩ := since.accounts stored
  obtain ⟨b', there, same'⟩ := since.accounts stored'
  refine ⟨conversationOf hub.store a b, ?_, fun e shown => mem_conversationOf differ shown, fun positive => ?_⟩
  · rw [effects_of_party reachable.linked differ here same there same' session asks]
    rfl
  · rw [← since.bound] at positive ⊢
    exact filter_conversationOf reachable.numbered differ member sender recipient positive

/-- Private messages reach both sides. When a reachable hub accepts one, the sender `a` is who is logged in on
the connection and the recipient `b` is somebody else. The sender is shown the message; so is the recipient, if
online, on another connection; and nobody else. From then on, whoever of the two asks for their conversation, on
whatever connection, is shown only messages between the two, and this one exactly as it was delivered, once, as
long as fewer messages of the conversation come after it than are shown. -/
theorem private_messages_reach_both (reachable : hub.Reachable)
    (accepted : (hub.sendPrivate now connection recipient text).value = some m) :
    ∃ a b, hub.store.session? connection = some a ∧ hub.store.user? recipient = some b ∧ a.id ≠ b.id ∧
      let d : Delivery := ⟨m.id, a.username, b.username, text.getD "", now, false⟩
      let done := hub.perform ⟨now, connection, .sendPrivate recipient text⟩
      (b.isOnline = true → ∃ place, b.connection = some place ∧ place ≠ connection ∧
        sent done.effects = [.caller connection (.privateMessage d), .to place (.privateMessage d)]) ∧
      (b.isOnline = false → sent done.effects = [.caller connection (.privateMessage d)]) ∧
      ∀ steps, let later := done.hub.advance steps
        ∀ place u partner time, later.store.session? place = some u →
          (u.id = a.id ∧ partner = b ∨ u.id = b.id ∧ partner = a) →
          ∃ shown,
            sent (later.perform ⟨time, place, .getPrivateHistory (some partner.username)⟩).effects =
              [.caller place (.privateHistory partner.username shown)] ∧
            (∀ e ∈ shown, ∃ n ∈ later.store.privateMessages, Store.between a.id b.id n = true ∧
              (n.sender = a.id ∧ e = delivery n a.username b.username ∨
                n.sender = b.id ∧ e = delivery n b.username a.username)) ∧
            (0 < hub.store.maxPrivateHistory →
              shown.filter (fun e => decide (e.id = m.id)) =
                if (later.store.behind m).length < hub.store.maxPrivateHistory then [d] else []) := by
  have linked := reachable.linked
  obtain ⟨a, store, session, ok⟩ := sendPrivate_of_value accepted
  obtain ⟨b, rfl, stored, recipient, differ⟩ := recipient_of_sendPrivate linked ok
  obtain ⟨-, -, -, -, sender, words, moment, unread, kept⟩ := Store.sendPrivate_ok ok
  have found : hub.store.user? (some b.username) = some b := Store.user?_of_find? linked stored
  refine ⟨a, b, session, found, differ, ?_⟩
  intro d done
  have shownTo : delivery m a.username b.username = d := by simp only [delivery, words, moment, unread, d]
  have sends : sent done.effects =
      .caller connection (.privateMessage d) :: deliver hub.store connection b.username d :=
    shownTo ▸ sent_sendPrivate session ok
  obtain ⟨told, untold⟩ := deliver_eq linked session found differ d
  refine ⟨fun online => ?_, fun offline => ?_, ?_⟩
  · obtain ⟨place, on, elsewhere, delivered⟩ := told online
    exact ⟨place, on, elsewhere, by rw [sends, delivered]⟩
  · rw [sends, untold offline]
  · intro steps later place u partner time session' asks
    have since : hub.store.Extends later.store := extends_advance linked (_ :: steps)
    have after : done.hub.store.Extends later.store := extends_advance (linked_perform linked _) steps
    have stays : m ∈ later.store.privateMessages := by
      refine after.messages.subset ?_
      simp only [done, perform_sendPrivate_ok session ok, kept, List.mem_append, List.mem_singleton, or_true]
    rw [← shownTo]
    exact shown_to_party (reachable.advance (_ :: steps)) since differ (find?_of_session? linked session) stored
      stays sender recipient session' asks

/-- The recipient of a message logs in elsewhere before reading it. -/
theorem private_messages_reach_both_of_move :
    let hub := (create (.empty .plain 10 1) (.empty 60 Instant.uptime) ⟨[], []⟩ .default).advance
      [⟨⟨1⟩, "first", .register (some "alice") (some "a@x") (some "secret")⟩,
       ⟨⟨2⟩, "second", .register (some "robert") (some "r@x") (some "secret")⟩,
       ⟨⟨3⟩, "first", .login (some "alice") (some "secret")⟩,
       ⟨⟨4⟩, "second", .login (some "robert") (some "secret")⟩]
    let step : Step := ⟨⟨5⟩, "first", .sendPrivate (some "robert") (some "hi")⟩
    let later := (hub.perform step).hub.advance [⟨⟨6⟩, "third", .login (some "robert") (some "secret")⟩]
    let d : Delivery := ⟨Id.ofNumber 3, "alice", "robert", "hi", ⟨5⟩, false⟩
    (hub.sendPrivate ⟨5⟩ "first" (some "robert") (some "hi")).value =
      some ⟨Id.ofNumber 3, Id.ofNumber 1, Id.ofNumber 2, "hi", ⟨5⟩, false⟩ ∧
    sent (hub.perform step).effects = [.caller "first" (.privateMessage d), .to "second" (.privateMessage d)] ∧
    ∃ shown, sent (later.perform ⟨⟨7⟩, "third", .getPrivateHistory (some "alice")⟩).effects =
        [.caller "third" (.privateHistory "alice" shown)] ∧
      shown.filter (fun e => decide (e.id = Id.ofNumber 3)) = [d] := by
  intro hub step later d
  have reachable : hub.Reachable := ⟨.plain, 10, 1, .empty 60 Instant.uptime, ⟨[], []⟩, .default, _, rfl⟩
  have accepted : (hub.sendPrivate ⟨5⟩ "first" (some "robert") (some "hi")).value =
      some ⟨Id.ofNumber 3, Id.ofNumber 1, Id.ofNumber 2, "hi", ⟨5⟩, false⟩ := by decide +kernel
  have facts : (hub.store.session? "first").map (·.username) = some ("alice" : Text) ∧
      (hub.store.user? (some "robert")).map (fun u => (u.id, u.username, u.isOnline, u.connection)) =
        some (Id.ofNumber 2, ("robert" : Text), true, some "second") ∧
      (later.store.session? "third").map (·.id) = some (Id.ofNumber 2) ∧
      (later.store.behind ⟨Id.ofNumber 3, Id.ofNumber 1, Id.ofNumber 2, "hi", ⟨5⟩, false⟩).length = 0 := by
    decide +kernel
  obtain ⟨sender, recipient, reader, last⟩ := facts
  obtain ⟨a, b, session, found, -, told, -, reads⟩ := private_messages_reach_both reachable accepted
  rw [session, Option.map_some, Option.some.injEq] at sender
  rw [found, Option.map_some, Option.some.injEq, Prod.mk.injEq, Prod.mk.injEq, Prod.mk.injEq] at recipient
  obtain ⟨identity, name, online, on⟩ := recipient
  obtain ⟨place, here, -, sends⟩ := told online
  rw [on, Option.some.injEq] at here
  obtain ⟨u, session', same⟩ := Option.map_eq_some_iff.1 reader
  obtain ⟨shown, answered, -, once⟩ := reads _ "third" u a ⟨7⟩ session' (.inr ⟨same.trans identity.symm, rfl⟩)
  have few := once (by decide +kernel)
  rw [last, if_pos (by decide +kernel)] at few
  rw [sender, name, ← here] at sends
  rw [sender] at answered
  rw [sender, name] at few
  exact ⟨accepted, sends, shown, answered, few⟩

end Hub

end ChatService
