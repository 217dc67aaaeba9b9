import ChatService.Proofs.Store.Conversation
import ChatService.Proofs.Store.Accounts

/-!
# Histories as a function of the log

What a store shows of its messages depends on its log and its bounds alone. The broadcast history is the
last messages that were posted. A conversation is all messages that went between two accounts, by moment and
then in the order of sending, and what is shown of it is its last messages. The bound zero is an exception
among the bounds of conversations: then nothing is left out.
-/

namespace ChatService

namespace Store

variable {s s' : Store} {a b : Id} {m n : PrivateMessage} {log log' : List Event}

/-! ## Reading the log -/

/-- The private message that a step accepted. -/
def Event.sent? (e : Event) : Option PrivateMessage :=
  match e.operation, e.answer with
  | .sendPrivate _ _ _, .privateMessage m => some m
  | _, _ => none

/-- The broadcast message that a step posted. -/
def Event.posted? (e : Event) : Option Message :=
  match e.operation, e.answer with
  | .post _ _, .message m => some m
  | _, _ => none

/-- The private messages of a log, in the order of sending. -/
def sentIn (log : List Event) : List PrivateMessage := log.filterMap Event.sent?

/-- The broadcast messages of a log, in the order of posting. -/
def postedIn (log : List Event) : List Message := log.filterMap Event.posted?

theorem sentIn_concat (log : List Event) (e : Event) : sentIn (log ++ [e]) = sentIn log ++ e.sent?.toList := by
  rw [sentIn, List.filterMap_append]
  cases sent : e.sent? <;> simp [sent, sentIn]

theorem postedIn_concat (log : List Event) (e : Event) :
    postedIn (log ++ [e]) = postedIn log ++ e.posted?.toList := by
  rw [postedIn, List.filterMap_append]
  cases posted : e.posted? <;> simp [posted, postedIn]

/-! ## The messages of a store -/

/-- The messages and the bounds of two stores are the same. -/
structure SameMessages (s s' : Store) : Prop where
  privateMessages : s'.privateMessages = s.privateMessages
  history : s'.history = s.history
  maxHistory : s'.maxHistory = s.maxHistory
  maxPrivateHistory : s'.maxPrivateHistory = s.maxPrivateHistory

theorem OnlySessions.sameMessages (only : OnlySessions s s') : SameMessages s s' := by
  rw [only]
  exact ⟨rfl, rfl, rfl, rfl⟩

/-- What a step adds to the messages of a store. -/
structure Adds (s : Store) (e : Event) (s' : Store) : Prop where
  privateMessages : s'.privateMessages = s.privateMessages ++ e.sent?.toList
  history : s'.history = match e.posted? with
    | some m => lastItems s.maxHistory (s.history ++ [m])
    | none => s.history
  maxHistory : s'.maxHistory = s.maxHistory
  maxPrivateHistory : s'.maxPrivateHistory = s.maxPrivateHistory

theorem SameMessages.adds (same : SameMessages s s') {e : Event} (unsent : e.sent? = none)
    (unposted : e.posted? = none) : Adds s e s' where
  privateMessages := by rw [unsent, Option.toList_none, List.append_nil, same.privateMessages]
  history := by rw [unposted, same.history]
  maxHistory := same.maxHistory
  maxPrivateHistory := same.maxPrivateHistory

/-- A step adds the message that it accepts, and nothing else. -/
theorem adds_perform (s : Store) (now : Instant) (operation : Operation) :
    Adds s ⟨now, operation, (s.perform now operation).1⟩ (s.perform now operation).2 := by
  have same : SameMessages s s := ⟨rfl, rfl, rfl, rfl⟩
  cases operation with
  | register username email password =>
    cases result : s.register now username email password with
    | error refusal =>
      simp only [perform, settle, result]
      exact same.adds rfl rfl
    | ok value =>
      obtain ⟨-, -, -, -, -, -, -, -, -, -, -, kept⟩ := register_ok result
      have same : SameMessages s value.2 := by
        rw [kept]
        exact ⟨rfl, rfl, rfl, rfl⟩
      simp only [perform, settle, result]
      exact same.adds rfl rfl
  | login username password connection =>
    cases result : s.login now username password connection with
    | error refusal =>
      simp only [perform, settle, result]
      exact same.adds rfl rfl
    | ok value =>
      simp only [perform, settle, result]
      exact (onlySessions_login result).sameMessages.adds rfl rfl
  | logout connection | disconnect connection =>
    exact (onlySessions_disconnect s now connection).sameMessages.adds rfl rfl
  | post username text => exact ⟨(List.append_nil _).symm, rfl, rfl, rfl⟩
  | sendPrivate sender recipient text =>
    cases result : s.sendPrivate now sender.id recipient text with
    | error refusal =>
      simp only [perform, settle, result]
      exact same.adds rfl rfl
    | ok value =>
      obtain ⟨-, -, -, -, -, -, -, -, kept⟩ := sendPrivate_ok result
      simp only [perform, settle, result, kept]
      exact ⟨rfl, rfl, rfl, rfl⟩
  | addContact owner target =>
    cases result : s.addContact now owner.id target with
    | error refusal =>
      simp only [perform, settle, result]
      exact same.adds rfl rfl
    | ok value =>
      have same : SameMessages s value.2 := by
        obtain ⟨_, -, -, ⟨-, kept, -⟩ | ⟨-, -, kept⟩⟩ := addContact_ok result <;> rw [kept]
        · exact same
        · exact ⟨rfl, rfl, rfl, rfl⟩
      simp only [perform, settle, result]
      exact same.adds rfl rfl
  | session _ | user _ | online | history | privateHistory _ _ | contacts _ => exact same.adds rfl rfl

/-- No step repeats the identity of a private message. -/
theorem numbered_perform (numbered : Numbered s) (now : Instant) (operation : Operation) :
    Numbered (s.perform now operation).2 := by
  apply perform_cases (P := Numbered)
  · exact numbered
  · intro _ _ _ _ _ _ ok
    obtain ⟨-, -, -, -, -, -, -, -, -, -, -, rfl⟩ := register_ok ok
    exact numbered.of_same rfl fun _ drawn => drawn.draw
  · intro _ _ _ _ _ _ ok
    have only := onlySessions_login ok
    exact numbered.of_same only.sameMessages.privateMessages fun _ drawn => drawn.of_onlySessions only
  · intro connection _
    have only := onlySessions_disconnect s now connection
    exact numbered.of_same only.sameMessages.privateMessages fun _ drawn => drawn.of_onlySessions only
  · intro _ _ _
    exact numbered.of_same rfl fun _ drawn => drawn
  · intro _ _ _ _ _ _ ok
    exact numbered_sendPrivate numbered ok
  · intro _ _ _ _ _ ok
    obtain ⟨_, -, -, ⟨-, rfl, -⟩ | ⟨-, -, rfl⟩⟩ := addContact_ok ok
    · exact numbered
    · exact numbered.of_same rfl fun _ drawn => drawn.draw

section

variable {hasher : Hasher} {maxHistory : Nat} {maxPrivateHistory : Int}

/-- After a run a store has the private messages of its log, and the last broadcast messages. -/
theorem Run.messages (run : Run (.empty hasher maxHistory maxPrivateHistory) log s) :
    s.privateMessages = sentIn log ∧ s.history = lastItems maxHistory (postedIn log) ∧
      s.maxHistory = maxHistory ∧ s.maxPrivateHistory = maxPrivateHistory := by
  refine run.induct (motive := fun log s =>
    s.privateMessages = sentIn log ∧ s.history = lastItems maxHistory (postedIn log) ∧
      s.maxHistory = maxHistory ∧ s.maxPrivateHistory = maxPrivateHistory) ⟨rfl, ?_, rfl, rfl⟩ ?_
  · exact (lastItems_of_le (Nat.zero_le maxHistory)).symm
  rintro log s now operation ⟨sent, posted, bound, privateBound⟩ -
  have adds := adds_perform s now operation
  refine ⟨?_, ?_, adds.maxHistory.trans bound, adds.maxPrivateHistory.trans privateBound⟩
  · rw [adds.privateMessages, sentIn_concat, sent]
  · rw [adds.history, postedIn_concat, ← lastItems_lastItems_append, ← posted]
    cases Event.posted? ⟨now, operation, (s.perform now operation).1⟩ with
    | none =>
      have full : s.history.length ≤ maxHistory := posted ▸ length_lastItems_le maxHistory _
      rw [Option.toList_none, List.append_nil, lastItems_of_le full]
    | some m => rw [bound, Option.toList_some]

theorem Run.numbered (run : Run (.empty hasher maxHistory maxPrivateHistory) log s) : Numbered s :=
  run.induct (motive := fun _ s => Numbered s) (numbered_empty hasher maxHistory maxPrivateHistory)
    fun _ _ now operation numbered _ => numbered_perform numbered now operation

end

/-! ## Conversations -/

/-- A message went from one of two accounts to the other. -/
def Exchanged (a b : Id) (m : PrivateMessage) : Prop :=
  m.sender = a ∧ m.recipient = b ∨ m.sender = b ∧ m.recipient = a

instance (a b : Id) (m : PrivateMessage) : Decidable (Exchanged a b m) :=
  inferInstanceAs (Decidable (_ ∨ _))

/-- The conversation of two accounts, of all messages sent: those that went between the two, by moment, and those
of one moment in the order of sending. -/
structure IsConversation (sent : List PrivateMessage) (a b : Id) (l : List PrivateMessage) : Prop where
  complete : l.Perm (sent.filter fun m => decide (Exchanged a b m))
  ordered : l.Pairwise (Precedes sent)

/-- Two accounts have one conversation. -/
theorem IsConversation.unique {sent l l' : List PrivateMessage} (distinct : sent.Nodup)
    (one : IsConversation sent a b l) (two : IsConversation sent a b l') : l = l' :=
  (one.complete.trans two.complete.symm).eq_of_pairwise
    (fun _ _ _ _ first second => absurd second (first.asymm distinct)) one.ordered two.ordered

/-- The conversation that a store keeps is the conversation of the two accounts. -/
theorem isConversation_conversation (numbered : Numbered s)
    (apart : ∀ m ∈ s.privateMessages, m.sender ≠ m.recipient) (a b : Id) :
    IsConversation s.privateMessages a b (s.conversation a b) where
  complete := by
    have same : s.privateMessages.filter (between a b) =
        s.privateMessages.filter fun m => decide (Exchanged a b m) :=
      List.filter_congr fun m member => decide_eq_decide.2 (and_iff_left (apart m member))
    rw [← same]
    exact List.mergeSort_perm ..
  ordered := conversation_ordered numbered a b

/-- A message was sent as it was asked for, at the time of its step. -/
theorem Run.of_sent {start : Store} (run : Run start log s) {e : Event} (member : e ∈ log) (sent : e.sent? = some m) :
    ∃ sender recipient text, e.operation = .sendPrivate sender recipient text ∧ m.sender = sender.id ∧
      m.text = text.getD "" ∧ m.timestamp = e.time := by
  obtain ⟨before, after, rfl⟩ := List.append_of_mem member
  obtain ⟨between, -, answered⟩ := run.answer
  obtain ⟨time, operation, answer⟩ := e
  cases operation with
  | sendPrivate sender recipient text =>
    cases answer with
    | privateMessage m' =>
      cases sent
      cases result : between.sendPrivate time sender.id recipient text with
      | error refusal => simp [perform, settle, result] at answered
      | ok value =>
        simp only [perform, settle, result, Answer.privateMessage.injEq] at answered
        obtain ⟨-, -, -, -, from', words, moment, -⟩ := sendPrivate_ok result
        rw [answered] at from' words moment
        exact ⟨sender, recipient, text, rfl, from', words, moment⟩
    | _ => cases sent
  | _ => cases sent

section

variable {hasher : Hasher} {maxHistory bound : Nat}

/-- The conversation of a store is that of its log. -/
theorem Run.conversation (run : Run (.empty hasher maxHistory bound) log s) (a b : Id) :
    IsConversation (sentIn log) a b (s.conversation a b) := by
  obtain ⟨linked, -⟩ := run.linked (consistent_empty hasher maxHistory bound).toLinked
  have ours := isConversation_conversation run.numbered (fun m member => (linked.privateMessages m member).1) a b
  rwa [run.messages.1] at ours

/-- What is shown of a conversation with a bound that is not zero: its last messages. -/
theorem Run.privateHistory (run : Run (.empty hasher maxHistory bound) log s) (positive : 1 ≤ bound) (a b : Id) :
    s.privateHistory a b = lastItems bound (s.conversation a b) := by
  obtain ⟨-, -, -, same⟩ := run.messages
  rw [Store.privateHistory, same, window, if_pos (by omega), Int.toNat_natCast]

/-- With the bound zero the whole conversation is shown. -/
theorem Run.privateHistory_zero (run : Run (.empty hasher maxHistory (0 : Nat)) log s) (a b : Id) :
    s.privateHistory a b = s.conversation a b := by
  obtain ⟨-, -, -, same⟩ := run.messages
  rw [Store.privateHistory, same]
  rfl

/-- Nobody has a conversation with himself. -/
theorem Run.conversation_self (run : Run (.empty hasher maxHistory bound) log s) (a : Id) : s.conversation a a = [] := by
  obtain ⟨linked, -⟩ := run.linked (consistent_empty hasher maxHistory bound).toLinked
  refine List.eq_nil_iff_forall_not_mem.2 fun m member => ?_
  obtain ⟨sent, ours⟩ := mem_conversation_iff.1 member
  simp only [between, decide_eq_true_eq] at ours
  rcases ours with ⟨⟨sender, recipient⟩ | ⟨sender, recipient⟩, apart⟩
  · exact apart (sender.trans recipient.symm)
  · exact apart (sender.trans recipient.symm)

/-- An account as it is registered at the time one. -/
private def registered (number : Nat) (username email : Text) : User :=
  ⟨Id.ofNumber number, username, email, Hasher.plain.hash (number - 1) (Password.digest "secret"), false, none, ⟨1⟩, ⟨1⟩⟩

/-- What two accounts are shown of their conversation. After every run of an empty store with a bound of at least
one there is exactly one list of all messages that the log sent from one of the two to the other, each as it was
asked for, by moment and then in the order of sending. Its last messages are shown, as many as the bound allows,
to either of the two in the same way; and somebody's conversation with himself is empty. -/
theorem conversation_window (run : Run (.empty hasher maxHistory bound) log s) (positive : 1 ≤ bound) (a b : Id) :
    (∃ l, IsConversation (sentIn log) a b l ∧ (∀ l', IsConversation (sentIn log) a b l' → l' = l) ∧
      s.privateHistory a b = lastItems bound l) ∧
    s.privateHistory b a = s.privateHistory a b ∧ s.privateHistory a a = [] ∧
    ∀ e ∈ log, ∀ m, e.sent? = some m → ∃ sender recipient text, e.operation = .sendPrivate sender recipient text ∧
      m.sender = sender.id ∧ m.text = text.getD "" ∧ m.timestamp = e.time := by
  have distinct : (sentIn log).Nodup := run.messages.1 ▸ run.numbered.nodup
  have ours := run.conversation a b
  refine ⟨⟨_, ours, fun l' other => other.unique distinct ours, run.privateHistory positive a b⟩,
    privateHistory_comm s a b, ?_, fun e member m sent => run.of_sent member sent⟩
  rw [run.privateHistory positive, run.conversation_self]
  exact lastItems_of_le (Nat.zero_le bound)

end

/-- Three messages of two moments: the clock was turned back for the second one. -/
theorem conversation_window_of_turned_clock :
    let ann := registered 1 "ann" "a@x"
    let bob := registered 2 "bob" "b@x"
    let first : PrivateMessage := ⟨Id.ofNumber 3, ann.id, bob.id, "first", ⟨9⟩, false⟩
    let second : PrivateMessage := ⟨Id.ofNumber 4, bob.id, ann.id, "second", ⟨5⟩, false⟩
    let third : PrivateMessage := ⟨Id.ofNumber 5, bob.id, ann.id, "third", ⟨9⟩, false⟩
    ∃ log s, Run (.empty .plain 5 (2 : Nat)) log s ∧ sentIn log = [first, second, third] ∧
      IsConversation (sentIn log) ann.id bob.id [second, first, third] ∧
      s.privateHistory bob.id ann.id = [first, third] ∧ s.privateHistory ann.id ann.id = [] := by
  intro ann bob first second third
  obtain ⟨log, s, run, sent⟩ : ∃ log s, Run (.empty .plain 5 (2 : Nat)) log s ∧ sentIn log = [first, second, third] := by
    have run : Run (.empty .plain 5 (2 : Nat)) [] (.empty .plain 5 (2 : Nat)) := .nothing
    have run := run.extend ⟨1⟩ (.register (some "ann") (some "a@x") (some "secret")) trivial
    have run := run.extend ⟨1⟩ (.register (some "bob") (some "b@x") (some "secret")) trivial
    have run := run.extend ⟨9⟩ (.sendPrivate ann (some "bob") (some "first")) ⟨_, .head _, rfl⟩
    have run := run.extend ⟨5⟩ (.sendPrivate bob (some "ann") (some "second")) ⟨_, .tail _ (.head _), rfl⟩
    have run := run.extend ⟨9⟩ (.sendPrivate bob (some "ann") (some "third")) ⟨_, .tail _ (.head _), rfl⟩
    exact ⟨_, _, run, by decide +kernel⟩
  have sorted : IsConversation (sentIn log) ann.id bob.id [second, first, third] := by
    rw [sent]
    exact ⟨by decide +kernel, by decide +kernel⟩
  obtain ⟨⟨l, -, only, last⟩, same, nobody, -⟩ := conversation_window run (by decide) ann.id bob.id
  refine ⟨log, s, run, sent, sorted, ?_, nobody⟩
  rw [same, last, ← only _ sorted]
  rfl

/-! ## Bounds -/

/-- What is shown with a bound, and with the next larger one: at most as many items as the bound, and no more than
one item added before them. -/
structure Capped {α : Type} (bound : Nat) (l l' : List α) : Prop where
  few : l.length ≤ bound
  older : l <:+ l'
  one : l'.length ≤ l.length + 1

theorem capped_lastItems {α : Type} (bound : Nat) (l : List α) :
    Capped bound (lastItems bound l) (lastItems (bound + 1) l) where
  few := length_lastItems_le bound l
  older := by
    have shorter : (lastItems bound l).length ≤ (lastItems (bound + 1) l).length := by
      rw [length_lastItems, length_lastItems]
      omega
    exact List.suffix_of_suffix_length_le (List.drop_suffix ..) (List.drop_suffix ..) shorter
  one := by
    rw [length_lastItems, length_lastItems]
    omega

/-- The bounds of the histories, for two runs with the same messages whose bounds are one apart. The bound of the
broadcast history is kept, and the larger one shows at most one more message, before the others. The bound of the
conversations does the same from one on. With the bound zero a conversation is shown in full, so this bound is kept
by those conversations alone that have no message. -/
theorem bounds_of_histories {hasher hasher' : Hasher} {maxHistory bound : Nat}
    (run : Run (.empty hasher maxHistory bound) log s)
    (run' : Run (.empty hasher' (maxHistory + 1) (bound + 1 : Nat)) log' s') (sameSent : sentIn log' = sentIn log)
    (samePosted : postedIn log' = postedIn log) (a b : Id) :
    Capped maxHistory s.history s'.history ∧
    (1 ≤ bound → Capped bound (s.privateHistory a b) (s'.privateHistory a b)) ∧
    (bound = 0 → IsConversation (sentIn log) a b (s.privateHistory a b) ∧
      (Capped bound (s.privateHistory a b) (s'.privateHistory a b) ↔ ∀ m ∈ sentIn log, ¬ Exchanged a b m)) := by
  have distinct : (sentIn log).Nodup := run.messages.1 ▸ run.numbered.nodup
  have ours := run.conversation a b
  have same : s'.conversation a b = s.conversation a b := (sameSent ▸ run'.conversation a b).unique distinct ours
  have shown := run'.privateHistory (Nat.le_add_left 1 bound) a b
  refine ⟨?_, fun positive => ?_, ?_⟩
  · rw [run.messages.2.1, run'.messages.2.1, samePosted]
    exact capped_lastItems maxHistory _
  · rw [shown, same, run.privateHistory positive]
    exact capped_lastItems bound _
  · rintro rfl
    rw [run.privateHistory_zero]
    refine ⟨ours, fun capped m sent exchanged => ?_, fun none => ?_⟩
    · have member := ours.complete.mem_iff.2 (List.mem_filter.2 ⟨sent, decide_eq_true exchanged⟩)
      rw [List.length_eq_zero_iff.1 (Nat.le_zero.1 capped.few)] at member
      cases member
    · have empty : s.conversation a b = [] := by
        refine List.eq_nil_iff_forall_not_mem.2 fun m member => ?_
        obtain ⟨sent, exchanged⟩ := List.mem_filter.1 (ours.complete.mem_iff.1 member)
        exact none m sent (of_decide_eq_true exchanged)
      rw [shown, same, empty]
      exact capped_lastItems 0 []

/-- With the bounds zero and one a private message and a broadcast one can be accepted. -/
private theorem exists_run_of_two_messages {bound : Nat} (small : bound ≤ 1) :
    ∃ log s, Run (.empty .plain bound bound) log s ∧
      sentIn log = [⟨Id.ofNumber 3, Id.ofNumber 1, Id.ofNumber 2, "hi", ⟨2⟩, false⟩] ∧
      postedIn log = [⟨"ann", "hello", ⟨3⟩⟩] := by
  have run : Run (.empty .plain bound bound) [] (.empty .plain bound bound) := .nothing
  have run := run.extend ⟨1⟩ (.register (some "ann") (some "a@x") (some "secret")) trivial
  have run := run.extend ⟨1⟩ (.register (some "bob") (some "b@x") (some "secret")) trivial
  have run := run.extend ⟨2⟩ (.sendPrivate (registered 1 "ann" "a@x") (some "bob") (some "hi")) ⟨_, .head _, rfl⟩
  have run := run.extend ⟨3⟩ (.post "ann" "hello") trivial
  obtain rfl | rfl : bound = 0 ∨ bound = 1 := by omega
  · exact ⟨_, _, run, by decide +kernel, by decide +kernel⟩
  · exact ⟨_, _, run, by decide +kernel, by decide +kernel⟩

/-- The bound zero hides the broadcast message and shows the private one. -/
theorem bounds_of_histories_of_zero : ∃ log log' s s', Run (.empty .plain 0 (0 : Nat)) log s ∧
    Run (.empty .plain 1 (1 : Nat)) log' s' ∧ sentIn log' = sentIn log ∧ postedIn log' = postedIn log ∧
    Capped 0 s.history s'.history ∧
    IsConversation (sentIn log) (Id.ofNumber 1) (Id.ofNumber 2)
      (s.privateHistory (Id.ofNumber 1) (Id.ofNumber 2)) ∧
    ¬ Capped 0 (s.privateHistory (Id.ofNumber 1) (Id.ofNumber 2))
      (s'.privateHistory (Id.ofNumber 1) (Id.ofNumber 2)) := by
  obtain ⟨log, s, run, sent, posted⟩ := exists_run_of_two_messages (Nat.zero_le 1)
  obtain ⟨log', s', run', sent', posted'⟩ := exists_run_of_two_messages (Nat.le_refl 1)
  have sameSent : sentIn log' = sentIn log := sent'.trans sent.symm
  have samePosted : postedIn log' = postedIn log := posted'.trans posted.symm
  obtain ⟨broadcast, -, zero⟩ :=
    bounds_of_histories run run' sameSent samePosted (Id.ofNumber 1) (Id.ofNumber 2)
  obtain ⟨whole, kept⟩ := zero rfl
  refine ⟨log, log', s, s', run, run', sameSent, samePosted, broadcast, whole, ?_⟩
  rw [kept, sent]
  decide +kernel

/-- The bound of the conversations is not always kept. -/
theorem private_bound_exceeded : ¬ ∀ (hasher : Hasher) (maxHistory bound : Nat) (log : List Event) (s : Store),
    Run (.empty hasher maxHistory bound) log s → ∀ a b, (s.privateHistory a b).length ≤ bound := by
  intro kept
  obtain ⟨log, s, run, sent, -⟩ := exists_run_of_two_messages (Nat.zero_le 1)
  have few := kept .plain 0 0 log s run (Id.ofNumber 1) (Id.ofNumber 2)
  rw [run.privateHistory_zero, (run.conversation _ _).complete.length_eq, sent] at few
  exact absurd few (by decide +kernel)

end Store

end ChatService
