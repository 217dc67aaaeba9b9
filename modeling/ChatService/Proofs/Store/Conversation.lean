import ChatService.Proofs.Store.Consistency
import Mathlib.Data.List.Nodup

/-!
# Conversations

The messages between two accounts are shown by moment, and those of one moment in the order in
which they were sent; only the last ones are shown. So a message is shown, once, as long as
few enough messages of its conversation come after it.
-/

namespace ChatService

namespace Store

variable {s s' : Store} {a b : Id} {m n : PrivateMessage}

/-! ## Identities -/

/-- Private messages have identities that were drawn, no two the same one. -/
structure Numbered (s : Store) : Prop where
  distinct : (s.privateMessages.map (·.id)).Nodup
  drawn : ∀ m ∈ s.privateMessages, s.Drawn m.id

theorem numbered_empty (hasher : Hasher) (maxHistory : Nat) (maxPrivateHistory : Int) :
    Numbered (.empty hasher maxHistory maxPrivateHistory) where
  distinct := List.nodup_nil
  drawn := by simp [empty]

theorem Numbered.of_same (numbered : Numbered s) (same : s'.privateMessages = s.privateMessages)
    (drawn : ∀ id, s.Drawn id → s'.Drawn id) : Numbered s' where
  distinct := same ▸ numbered.distinct
  drawn m member := drawn m.id (numbered.drawn m (same ▸ member))

theorem numbered_sendPrivate (numbered : Numbered s) {now : Instant} {sender : Id} {recipient text : Option Text}
    (ok : s.sendPrivate now sender recipient text = .ok (m, s')) : Numbered s' := by
  obtain ⟨-, -, -, new, -, -, -, -, rfl⟩ := sendPrivate_ok ok
  refine ⟨?_, ?_⟩
  · rw [List.map_append, List.nodup_append]
    refine ⟨numbered.distinct, List.nodup_singleton _, ?_⟩
    intro id old id' last same
    obtain ⟨m', member, rfl⟩ := List.mem_map.1 old
    rw [List.map_singleton, List.mem_singleton] at last
    have drawn := numbered.drawn m' member
    rw [same, last, new] at drawn
    exact not_drawn_nextId s drawn
  · intro m' member
    rcases List.mem_append.1 member with old | last
    · exact (numbered.drawn m' old).draw
    · rw [List.mem_singleton.1 last, new]
      exact drawn_nextId s

/-- A private message is known by its identity. -/
theorem Numbered.eq_of_id (numbered : Numbered s) (member : m ∈ s.privateMessages) (member' : n ∈ s.privateMessages)
    (same : m.id = n.id) : m = n :=
  List.inj_on_of_nodup_map numbered.distinct member member' same

theorem Numbered.nodup (numbered : Numbered s) : s.privateMessages.Nodup := numbered.distinct.of_map _

/-! ## Order -/

/-- A message is of an earlier moment than another one, or of the same moment and sent before it. -/
def Precedes (sent : List PrivateMessage) (m n : PrivateMessage) : Prop :=
  m.timestamp.micros < n.timestamp.micros ∨
    m.timestamp.micros = n.timestamp.micros ∧ [m, n].Sublist sent

instance (sent : List PrivateMessage) (m n : PrivateMessage) : Decidable (Precedes sent m n) :=
  inferInstanceAs (Decidable (_ ∨ _))

/-- The messages of its conversation that come after a message. -/
def behind (s : Store) (m : PrivateMessage) : List PrivateMessage :=
  s.privateMessages.filter fun n => decide (between m.sender m.recipient n = true ∧ Precedes s.privateMessages m n)

theorem between_comm (a b : Id) (m : PrivateMessage) : between b a m = between a b m := by
  simp only [between, or_comm]

/-- A message belongs to one conversation. -/
theorem between_parties (mine : between a b m = true) (n : PrivateMessage) :
    between m.sender m.recipient n = between a b n := by
  simp only [between, decide_eq_true_eq] at mine
  rcases mine.1 with ⟨rfl, rfl⟩ | ⟨rfl, rfl⟩
  · rfl
  · exact between_comm _ _ n

theorem conversation_comm (s : Store) (a b : Id) : s.conversation b a = s.conversation a b := by
  have same : between b a = between a b := funext (between_comm a b)
  rw [conversation, conversation, same]

theorem mem_conversation_iff : m ∈ s.conversation a b ↔ m ∈ s.privateMessages ∧ between a b m = true := by
  rw [conversation, List.mem_mergeSort, List.mem_filter]

theorem conversation_sorted (s : Store) (a b : Id) :
    (s.conversation a b).Pairwise fun m n => m.timestamp.micros ≤ n.timestamp.micros := by
  have sorted : (s.conversation a b).Pairwise fun m n => decide (m.timestamp.micros ≤ n.timestamp.micros) = true :=
    List.pairwise_mergeSort (fun _ _ _ first second => by simp at first second ⊢; omega)
      (fun _ _ => by simp; omega) _
  exact sorted.imp (by simp)

/-- Two messages of one moment are shown in the order of sending. -/
theorem conversation_stable (ours : between a b m = true) (ours' : between a b n = true)
    (order : m.timestamp.micros ≤ n.timestamp.micros) (sent : [m, n].Sublist s.privateMessages) :
    [m, n].Sublist (s.conversation a b) := by
  refine List.pair_sublist_mergeSort (fun _ _ _ first second => by simp at first second ⊢; omega)
    (fun _ _ => by simp; omega) (by simpa using order) ?_
  have kept := sent.filter (between a b)
  rwa [List.filter_cons_of_pos ours, List.filter_cons_of_pos ours', List.filter_nil] at kept

section

variable {α : Type} {x y : α} {front back l : List α}

/-- Of two items of a list one stands before the other. -/
theorem pair_sublist_of_mem (here : x ∈ l) (there : y ∈ l) (other : x ≠ y) :
    [x, y].Sublist l ∨ [y, x].Sublist l := by
  obtain ⟨front, back, rfl⟩ := List.append_of_mem here
  rcases List.mem_append.1 there with before | after
  · exact .inr ((List.singleton_sublist.2 before).append (List.singleton_sublist.2 (List.mem_cons_self ..)))
  · have behind := (List.mem_cons.1 after).resolve_left other.symm
    exact .inl (((List.singleton_sublist.2 behind).cons_cons x).trans (List.sublist_append_right ..))

theorem mem_behind_of_pair (first : x ∉ front) (pair : [x, y].Sublist (front ++ x :: back)) : y ∈ back := by
  obtain ⟨l, l', both, before, after⟩ := List.sublist_append_iff.1 pair
  cases l with
  | nil =>
    cases both
    exact List.singleton_sublist.1 (List.cons_sublist_cons.1 after)
  | cons z rest =>
    obtain ⟨rfl, -⟩ := List.cons.inj both
    exact absurd (before.subset (List.mem_cons_self ..)) first

theorem mem_before_of_pair (last : y ∉ back) (pair : [x, y].Sublist (front ++ y :: back)) : x ∈ front := by
  obtain ⟨l, l', both, before, after⟩ := List.sublist_append_iff.1 pair
  cases l with
  | nil =>
    cases both
    have tail : [y].Sublist back := by simpa using after.tail
    exact absurd (List.singleton_sublist.1 tail) last
  | cons z rest =>
    obtain ⟨rfl, -⟩ := List.cons.inj both
    exact before.subset (List.mem_cons_self ..)

/-- Two items of a list without repetitions stand in one order only. -/
theorem not_pair_sublist_swap (distinct : l.Nodup) (pair : [x, y].Sublist l) : ¬ [y, x].Sublist l := by
  intro swapped
  obtain ⟨front, back, rfl⟩ := List.append_of_mem (pair.subset (List.mem_cons_self ..))
  obtain ⟨-, -, apart⟩ := List.nodup_append.1 distinct
  have elsewhere := (List.nodup_middle.1 distinct).notMem
  simp only [List.mem_append, not_or] at elsewhere
  have later := mem_behind_of_pair elsewhere.1 pair
  have earlier := mem_before_of_pair elsewhere.2 swapped
  exact apart y earlier y (List.mem_cons_of_mem x later) rfl

end

/-- Of two messages only one comes before the other. -/
theorem Precedes.asymm {sent : List PrivateMessage} (distinct : sent.Nodup) (first : Precedes sent m n) :
    ¬ Precedes sent n m := by
  rintro (less | ⟨equal, behind⟩)
  · rcases first with less' | ⟨equal', -⟩ <;> omega
  · rcases first with less' | ⟨-, before⟩
    · omega
    · exact not_pair_sublist_swap distinct before behind

theorem conversation_nodup (numbered : Numbered s) (a b : Id) : (s.conversation a b).Nodup := by
  rw [conversation, (List.mergeSort_perm _ _).nodup_iff]
  exact numbered.nodup.filter _

/-- The messages of a conversation stand by moment, and those of one moment in the order of sending. -/
theorem conversation_ordered (numbered : Numbered s) (a b : Id) :
    (s.conversation a b).Pairwise (Precedes s.privateMessages) := by
  have once := conversation_nodup numbered a b
  refine List.pairwise_iff_forall_sublist.2 fun {m n} pair => ?_
  obtain ⟨sent, ours⟩ := mem_conversation_iff.1 (pair.subset (List.mem_cons_self ..))
  obtain ⟨sent', ours'⟩ := mem_conversation_iff.1 (pair.subset (List.mem_cons_of_mem m (List.mem_singleton_self n)))
  rcases Int.lt_or_eq_of_le (List.pairwise_iff_forall_sublist.1 (conversation_sorted s a b) pair) with less | equal
  · exact .inl less
  · -- Sorting is stable, so messages of one moment cannot have been sent the other way round.
    have other : m ≠ n := by
      rintro rfl
      exact not_pair_sublist_swap once pair pair
    refine .inr ⟨equal, (pair_sublist_of_mem sent sent' other).resolve_right fun reversed => ?_⟩
    exact not_pair_sublist_swap once pair (conversation_stable ours' ours (Int.le_of_eq equal.symm) reversed)

/-- Where a message is shown: between the messages that come before it and those that come after it. -/
theorem conversation_split (numbered : Numbered s) (member : m ∈ s.privateMessages) (ours : between a b m = true) :
    ∃ front back, s.conversation a b = front ++ m :: back ∧ m ∉ front ∧ m ∉ back ∧
      back.length = (s.behind m).length := by
  obtain ⟨front, back, split⟩ := List.append_of_mem (mem_conversation_iff.2 ⟨member, ours⟩)
  have once := conversation_nodup numbered a b
  have ordered := conversation_ordered numbered a b
  rw [split] at once
  rw [split, List.pairwise_append, List.pairwise_cons] at ordered
  obtain ⟨-, ⟨later, -⟩, earlier⟩ := ordered
  have elsewhere : m ∉ front ++ back := (List.nodup_middle.1 once).notMem
  simp only [List.mem_append, not_or] at elsewhere
  have shown (n : PrivateMessage) : n ∈ front ∨ n = m ∨ n ∈ back ↔ n ∈ s.privateMessages ∧ between a b n = true := by
    rw [← mem_conversation_iff, split, List.mem_append, List.mem_cons]
  have same (n : PrivateMessage) : n ∈ back ↔ n ∈ s.behind m := by
    simp only [behind, List.mem_filter, decide_eq_true_eq, between_parties ours]
    constructor
    · intro place
      obtain ⟨sent, ours'⟩ := (shown n).1 (.inr (.inr place))
      exact ⟨sent, ours', later n place⟩
    · rintro ⟨sent, ours', after⟩
      rcases (shown n).2 ⟨sent, ours'⟩ with before | rfl | place
      · exact absurd (earlier n before m (List.mem_cons_self ..)) (after.asymm numbered.nodup)
      · exact absurd after (after.asymm numbered.nodup)
      · exact place
  refine ⟨front, back, split, elsewhere.1, elsewhere.2, ?_⟩
  exact ((List.perm_ext_iff_of_nodup once.of_append_right.of_cons (numbered.nodup.filter _)).2 same).length_eq

/-! ## The last items of a list -/

section

variable {α β : Type}

theorem length_lastItems_le (n : Nat) (l : List α) : (lastItems n l).length ≤ n := by
  simp only [lastItems, List.length_drop]
  omega

theorem length_lastItems (n : Nat) (l : List α) : (lastItems n l).length = min n l.length := by
  simp only [lastItems, List.length_drop]
  omega

theorem lastItems_of_le {n : Nat} {l : List α} (short : l.length ≤ n) : lastItems n l = l := by
  rw [lastItems, Nat.sub_eq_zero_of_le short, List.drop_zero]

/-- What was dropped before would be dropped now. -/
theorem lastItems_lastItems_append (n : Nat) (l l' : List α) :
    lastItems n (lastItems n l ++ l') = lastItems n (l ++ l') := by
  by_cases short : l.length ≤ n
  · rw [lastItems_of_le short]
  · have gone : l.length - n ≤ l.length := Nat.sub_le ..
    have more : (l ++ l').length - n = (l.length - n) + l'.length := by
      rw [List.length_append]
      omega
    have rest : (l.drop (l.length - n) ++ l').length - n = l'.length := by
      rw [List.length_append, List.length_drop]
      omega
    simp only [lastItems]
    rw [rest, more, ← List.drop_drop, List.drop_append_of_le_length gone]

theorem map_lastItems (f : α → β) (n : Nat) (l : List α) : (lastItems n l).map f = lastItems n (l.map f) := by
  rw [lastItems, lastItems, List.map_drop, List.length_map]

theorem mem_lastItems_iff {x : α} {front back : List α} (once : x ∉ back) (bound : Nat) :
    x ∈ lastItems bound (front ++ x :: back) ↔ back.length < bound := by
  have length : (front ++ x :: back).length = front.length + 1 + back.length := by
    simp only [List.length_append, List.length_cons]
    omega
  by_cases few : back.length < bound
  · have kept : (front ++ x :: back).length - bound ≤ front.length := by omega
    rw [lastItems, List.drop_append_of_le_length kept]
    simp [few]
  · have gone : (front ++ x :: back).length - bound = (front ++ [x]).length + (back.length - bound) := by
      rw [length, List.length_append, List.length_singleton]
      omega
    have rest : lastItems bound (front ++ x :: back) = back.drop (back.length - bound) := by
      have apart : front ++ x :: back = (front ++ [x]) ++ back := List.append_cons ..
      rw [lastItems, gone, apart, List.drop_length_add_append]
    simp only [rest, few, iff_false]
    exact fun member => once (List.mem_of_mem_drop member)

end

/-! ## What is shown -/

theorem privateHistory_sublist (s : Store) (a b : Id) : (s.privateHistory a b).Sublist (s.conversation a b) := by
  unfold privateHistory window lastItems
  split
  · exact List.drop_sublist ..
  · exact List.drop_sublist ..

theorem mem_of_mem_privateHistory (shown : m ∈ s.privateHistory a b) :
    m ∈ s.privateMessages ∧ between a b m = true :=
  mem_conversation_iff.1 ((privateHistory_sublist s a b).subset shown)

theorem privateHistory_comm (s : Store) (a b : Id) : s.privateHistory b a = s.privateHistory a b := by
  rw [privateHistory, privateHistory, conversation_comm]

/-- A message is shown as long as fewer messages than the bound come after it. -/
theorem mem_privateHistory_iff (numbered : Numbered s) (member : m ∈ s.privateMessages)
    (ours : between a b m = true) (positive : 0 < s.maxPrivateHistory) :
    m ∈ s.privateHistory a b ↔ (s.behind m).length < s.maxPrivateHistory := by
  obtain ⟨front, back, split, -, once, length⟩ := conversation_split numbered member ours
  rw [privateHistory, window, if_pos positive, split, mem_lastItems_iff once, length]
  omega

/-- What is shown under the identity of a message is that message, once, or nothing. -/
theorem filter_privateHistory (numbered : Numbered s) (member : m ∈ s.privateMessages)
    (ours : between a b m = true) (positive : 0 < s.maxPrivateHistory) :
    (s.privateHistory a b).filter (fun n => decide (n.id = m.id)) =
      if (s.behind m).length < s.maxPrivateHistory then [m] else [] := by
  have same (n : PrivateMessage) (shown : n ∈ s.privateHistory a b) : decide (n.id = m.id) = decide (n = m) := by
    have known := (mem_of_mem_privateHistory shown).1
    exact decide_eq_decide.2 ⟨numbered.eq_of_id known member, congrArg _⟩
  have once : (s.privateHistory a b).Nodup := (conversation_nodup numbered a b).sublist (privateHistory_sublist s a b)
  rw [List.filter_congr same]
  split
  · next few =>
    have shown := (mem_privateHistory_iff numbered member ours positive).2 few
    rw [List.filter_eq, List.count_eq_one_of_mem once shown, List.replicate_one]
  · next many =>
    have hidden := mt (mem_privateHistory_iff numbered member ours positive).1 many
    rw [List.filter_eq, List.count_eq_zero_of_not_mem hidden, List.replicate_zero]

end Store
end ChatService
