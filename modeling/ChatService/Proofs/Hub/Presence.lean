import ChatService.Proofs.Hub.Conduct
import Mathlib.Data.List.Nodup

/-!
# Presence

Whenever somebody comes online or goes offline, the hub tells everybody who is online. So
the latest announcement always names exactly the accounts that are online, each once and
in order.
-/

namespace ChatService

open Effect (sent)

namespace Store

variable {s s' : Store}

/-! ## The names that are shown -/

theorem nodup_usernames (linked : Linked s) : (s.users.values.map (·.username)).Nodup := by
  have ids : s.users.values.map (·.id) = s.users.keys := by
    simp only [Table.values, Table.keys, List.map_map]
    apply List.map_congr_left
    rintro ⟨id, u⟩ entry
    exact linked.keyed (Table.mem_entries_iff.1 entry)
  have distinct : (s.users.values.map (·.id)).Nodup := ids ▸ s.users.distinct
  refine List.Nodup.map_on ?_ (distinct.of_map _)
  intro u member v member' same
  obtain ⟨id, found⟩ := Table.mem_values_iff.1 member
  obtain ⟨id', found'⟩ := Table.mem_values_iff.1 member'
  rw [linked.byUsername.unique found found' same, found', Option.some.injEq] at found
  exact found.symm

/-- The names that are shown are in the order of their code points, none of them twice. -/
theorem online_sorted (linked : Linked s) : s.online.Pairwise (· < ·) := by
  have ordered : s.online.Pairwise fun a b => decide (a ≤ b) = true := by
    apply List.pairwise_mergeSort
    · intro a b c first second
      simp only [decide_eq_true_eq] at first second ⊢
      exact List.le_trans first second
    · intro a b
      simpa using List.le_total a b
  have distinct : s.online.Nodup := by
    refine (List.mergeSort_perm _ _).nodup_iff.2 ((nodup_usernames linked).sublist ?_)
    exact List.filter_sublist.map _
  refine (ordered.and distinct).imp ?_
  rintro a b ⟨le, ne⟩
  rw [decide_eq_true_eq] at le
  exact List.not_le.1 fun back => ne (List.le_antisymm le back)

/-- Accounts, messages and contacts that are recorded do not change who is online. -/
theorem Recorded.online (linked : Linked s) (recorded : s.Recorded s') : s'.online = s.online := by
  cases recorded with
  | nothing => rfl
  | @account _ _ _ _ u _ ok =>
    obtain ⟨new, -, -, -, offline, -, -, -, -, -, -, rfl⟩ := register_ok ok
    have fresh : s.users.find? u.id = none := new ▸ find?_nextId linked
    simp [Store.online, Table.values_insert_of_new u fresh, offline]
  | privateMessage ok =>
    obtain ⟨-, -, -, -, -, -, -, -, rfl⟩ := sendPrivate_ok ok
    rfl
  | contact ok =>
    obtain ⟨_, -, -, ⟨-, rfl, -⟩ | ⟨-, -, rfl⟩⟩ := addContact_ok ok
    · rfl
    · rfl

end Store

/-! ## Announcements -/

/-- The names in an announcement of who is online. -/
def Effect.announced? : Effect → Option (List Text)
  | .all (.onlineUsers names) => some names
  | _ => none

theorem Effect.announced?_of_silent {e : Effect} (silent : e.reply? = none) : e.announced? = none := by
  cases e <;> first | rfl | cases silent

/-- The names that were announced last, after some that were announced before. -/
def latest (before : List Text) (effects : List Effect) : List Text :=
  (effects.filterMap Effect.announced?).getLast?.getD before

theorem latest_append (before : List Text) (l l' : List Effect) :
    latest before (l ++ l') = latest (latest before l) l' := by
  simp only [latest, List.filterMap_append, List.getLast?_append]
  cases (l'.filterMap Effect.announced?).getLast? <;> rfl

theorem latest_sent (before : List Text) (l : List Effect) : latest before (sent l) = latest before l := by
  rw [latest, Effect.filterMap_sent (fun _ => Effect.announced?_of_silent), latest]

theorem latest_of_none {l : List Effect} (none : ∀ e ∈ l, e.announced? = none) (before : List Text) :
    latest before l = before := by
  rw [latest, List.filterMap_eq_nil_iff.2 none]
  rfl

namespace Hub

variable {hub : Hub} {step : Step}

/-- A reply to somebody is no announcement. -/
theorem announced?_of_personal {connection : String} {reply : Reply} {others : List Effect} {e : Effect}
    (delivered : others = [] ∨ ∃ other, others = [.to other reply]) (member : e ∈ .caller connection reply :: others) :
    e.announced? = none := by
  rcases List.mem_cons.1 member with rfl | told
  · rfl
  · rcases delivered with rfl | ⟨other, rfl⟩
    · cases told
    · rw [List.mem_singleton.1 told]
      rfl

/-- A step that begins or ends a session announces who is online, as the last thing that it sends. Any other
step announces nothing and leaves online who is online. -/
theorem announces (linked : hub.store.Linked) (step : Step) :
    (hub.MovesSession step ∧ ∃ earlier, (∀ e ∈ earlier, e.announced? = none) ∧
      sent (hub.perform step).effects = earlier ++ [.all (.onlineUsers (hub.perform step).hub.store.online)]) ∨
    (¬ hub.MovesSession step ∧ (∀ e ∈ sent (hub.perform step).effects, e.announced? = none) ∧
      (hub.perform step).hub.store.online = hub.store.online) := by
  have conduct := conduct linked step
  unfold Conducted at conduct
  generalize hub.posted? step = posted, (hub.perform step).hub = hub',
    sent (hub.perform step).effects = effects at conduct ⊢
  cases conduct with
  | refused _ calm => exact .inr ⟨calm, fun e member => by rw [List.mem_singleton.1 member]; rfl, rfl⟩
  | answered _ calm recorded _ delivered =>
    exact .inr ⟨calm, fun e member => announced?_of_personal delivered member, recorded.online linked⟩
  | silent _ calm => exact .inr ⟨calm, by simp, rfl⟩
  | posted _ calm kept =>
    have same : hub.store.online = hub'.store.online := congrArg (fun r => r.2.online) kept
    exact .inr ⟨calm, fun e member => by rw [List.mem_singleton.1 member]; rfl, same.symm⟩
  | @loggedIn _ username password u _ asked ok =>
    refine .inl ⟨.inl ⟨username, password, u, hub'.store, asked, ok⟩,
      [.caller step.connection (.loginSuccess u)], ?_, rfl⟩
    intro e member
    rw [List.mem_singleton.1 member]
    rfl
  | left _ ends _ acknowledged =>
    refine .inl ⟨.inr ends, _, ?_, rfl⟩
    intro e member
    rcases acknowledged with rfl | rfl
    · cases member
    · rw [List.mem_singleton.1 member]
      rfl

/-- After a step the latest announcement names who is online, if it did so before. -/
theorem latest_perform (linked : hub.store.Linked) (step : Step) :
    latest hub.store.online (hub.perform step).effects = (hub.perform step).hub.store.online := by
  rw [← latest_sent]
  rcases announces linked step with ⟨-, earlier, -, sends⟩ | ⟨-, none, same⟩
  · rw [sends, latest_append]
    rfl
  · rw [latest_of_none none, same]

theorem latest_turns (linked : hub.store.Linked) (steps : List Step) :
    latest hub.store.online ((hub.turns steps).flatMap (·.done.effects)) = (hub.advance steps).store.online := by
  induction steps generalizing hub with
  | nil => rfl
  | cons step rest ih =>
    rw [turns, List.flatMap_cons, latest_append, Turn.done, latest_perform linked]
    exact ih (linked_perform linked step)

/-- Presence is never stale. After every run of a fresh hub, the names of the latest announcement are those
of the accounts that are online, in the order of their code points and each once. The next step announces
who is online exactly when it is a login that succeeds, or a logout or disconnect of a connection with a
session; then the announcement is one, and the last thing that is sent. -/
theorem presence_is_never_stale (hasher : Hasher) (maxHistory : Nat) (maxPrivateHistory : Int) (cache : Rates.Cache)
    (surroundings : BuiltIn.Surroundings) (chatLog : ChatLog) (steps : List Step) :
    let start := create (.empty hasher maxHistory maxPrivateHistory) cache surroundings chatLog
    let hub := start.advance steps
    let names := latest [] ((start.turns steps).flatMap (·.done.effects))
    names.Pairwise (· < ·) ∧
    (∀ name, name ∈ names ↔ ∃ id u, hub.store.users.find? id = some u ∧ u.isOnline = true ∧ u.username = name) ∧
    ∀ step,
      ((∃ e ∈ (hub.perform step).effects, e.announced?.isSome = true) ↔ hub.LogsIn step ∨ hub.EndsSession step) ∧
      (hub.LogsIn step ∨ hub.EndsSession step → ∃ earlier current, (∀ e ∈ earlier, e.announced? = none) ∧
        sent (hub.perform step).effects = earlier ++ [.all (.onlineUsers current)]) := by
  intro start hub names
  have fresh : start.store.Linked := (Store.consistent_empty hasher maxHistory maxPrivateHistory).toLinked
  have linked : hub.store.Linked := linked_advance fresh steps
  have nobody : start.store.online = [] := by simp [start, create, Store.empty, Store.online, Table.values, Table.empty]
  have current : names = hub.store.online := by rw [← latest_turns fresh steps, nobody]
  refine ⟨current ▸ Store.online_sorted linked, fun name => current ▸ Store.mem_online_iff, fun step => ?_⟩
  rcases announces linked step with ⟨moves, earlier, none, sends⟩ | ⟨calm, none, -⟩
  · refine ⟨⟨fun _ => moves, fun _ => ?_⟩, fun _ => ⟨earlier, _, none, sends⟩⟩
    have last : Effect.all (.onlineUsers (hub.perform step).hub.store.online) ∈ sent (hub.perform step).effects := by
      rw [sends]
      exact List.mem_append_right _ (List.mem_singleton_self _)
    exact ⟨_, (Effect.mem_sent_iff.1 last).1, rfl⟩
  · refine ⟨⟨?_, fun moves => absurd moves calm⟩, fun moves => absurd moves calm⟩
    rintro ⟨e, member, announced⟩
    have shown : e ∈ sent (hub.perform step).effects := by
      refine Effect.mem_sent_iff.2 ⟨member, ?_⟩
      cases silent : e.reply? with
      | none => simp [Effect.announced?_of_silent silent] at announced
      | some _ => rfl
    simp [none e shown] at announced

end Hub

end ChatService
