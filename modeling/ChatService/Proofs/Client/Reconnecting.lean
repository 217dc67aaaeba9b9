import ChatService.Proofs.Client.Listening

/-!
# Connecting again while listening

A connection that is lost is never read again: either a later attempt has brought a
new one before the next reading, or all rounds have failed and listening is over. The
delays before the rounds are 1, 2, 4, 8 and 16 seconds.
-/

namespace ChatService.Client

/-- The delays before the rounds of connecting again, from the first one on. -/
theorem Delay.waits_default {rounds : Nat} (few : rounds ≤ Session.reconnectRounds) :
    Session.defaultDelay.waits 0 rounds = ["1.0", "2.0", "4.0", "8.0", "16.0"].take rounds := by
  have all : Session.defaultDelay.waits 0 Session.reconnectRounds = ["1.0", "2.0", "4.0", "8.0", "16.0"] := by
    decide +kernel
  rw [← all, waits, waits, ← List.map_take, List.take_range, Nat.min_eq_left few]

namespace Session

variable {silent : Bool} {s t u : Session}

theorem successAt_pos {otherwise : Nat} (some : 0 < otherwise) : 0 < s.successAt otherwise := by
  rw [successAt]
  cases s.attempts.findIdx? Attempt.isAccepted with
  | none => exact some
  | some i => exact Nat.succ_pos i

theorem Again.asked_lt (again : Again s t) : s.asked < t.asked := by
  have made : 0 < min reconnectRounds (s.successAt reconnectRounds) :=
    Nat.lt_min.2 ⟨by decide, successAt_pos (by decide)⟩
  rw [again.passed.asked]
  exact Nat.lt_add_of_pos_right made

theorem Again.channels_lt (again : Again s t) : s.channels.length < t.channels.length := by
  obtain ⟨arrivals, broken, -, -, channel, past, -⟩ := again.now
  rw [Session.channels.eq_def t, past, channel, Option.toList_some, List.length_append]
  exact Nat.lt_succ_self _

/-! ## What only grows -/

/-- Listening takes back neither an attempt nor a connection. -/
theorem le_of_turn (turned : s.turn silent = (none, t)) :
    s.asked ≤ t.asked ∧ s.channels.length ≤ t.channels.length := by
  have ends := turned_turn silent s
  rw [turned] at ends
  cases ends with
  | heard => exact ⟨Nat.le_refl _, Nat.le_refl _⟩
  | again _ again => exact ⟨Nat.le_of_lt again.asked_lt, Nat.le_of_lt again.channels_lt⟩
  | notAgain _ notAgain =>
    rw [notAgain.passed.asked, notAgain.channels]
    exact ⟨Nat.le_add_right _ _, Nat.le_refl _⟩

theorem le_of_turns (turns : Turns silent s t) : s.asked ≤ t.asked ∧ s.channels.length ≤ t.channels.length := by
  induction turns with
  | here => exact ⟨Nat.le_refl _, Nat.le_refl _⟩
  | turn running turned more ih =>
    have first := le_of_turn turned
    exact ⟨Nat.le_trans first.1 ih.1, Nat.le_trans first.2 ih.2⟩

theorem listen_of_turns (turns : Turns silent s t) : s.listen silent = t.listen silent := by
  induction turns with
  | here => rfl
  | turn running turned more ih => exact (listen_of_turn running turned).trans ih

/-! ## Lost connections -/

/-- After a lost connection comes another one, or the end of listening. -/
theorem turn_of_lost (running : s.running = true) (lost : Loses silent s) :
    (∃ t, Again s t ∧ s.turn silent = (none, t)) ∨ (∃ t, NotAgain s t ∧ s.listen silent = (.stopped, t)) := by
  have ends := turned_turn silent s
  generalize turned : s.turn silent = result at ends
  cases ends with
  | again _ again => exact .inl ⟨_, again, rfl⟩
  | notAgain _ notAgain stops =>
    refine .inr ⟨_, notAgain, ?_⟩
    rcases stops with rfl | rfl
    · rw [listen_of_turn running turned, listen_of_off notAgain.off]
    · exact listen_of_end running turned
  -- A reading that finds the connection lost finds nothing else.
  | heard next some | failed next some => rcases lost with ⟨_, other⟩ | other | other <;> simp_all
  | cancelled next => rcases lost with ⟨_, other⟩ | other | other <;> simp_all
  | waiting stays nothing => rcases lost with ⟨_, other⟩ | other | other <;> simp_all

/-- Connecting and connecting again, whatever the attempts meet. A delay can be had exactly if its power of two is a
double, for a double, and if it can be shown and, unless it is over at once, rounds to a double, for a whole number.
Where all delays up to the first success can be had, connecting makes the attempts up to it, or as many as it may,
waits between them, each time twice as long, and ends with the connection of the success or with what there was
before; at a delay that cannot be had it breaks off. Connecting again waits 1, 2, 4, 8 and 16 seconds in front of the
attempts and stops at the first success; without any the client no longer runs. So when listening finds a connection
lost, then either what it reads next comes from a connection brought by an attempt made since, and so does everything
later, or listening is over. -/
theorem connecting_backs_off (s : Session) :
    (∀ (base : Delay) times, base.fault? times = none ↔ base.Had times) ∧
    (∀ retries base, (∀ i, i + 1 < min retries (s.successAt retries) → base.fault? i = none) →
      ∃ t, Passed s t (min retries (s.successAt retries)) (base.waits 0 (min retries (s.successAt retries) - 1)) ∧
        ((∃ i < retries, (s.upcoming i).isAccepted = true) ∧ s.connect retries base = (.ok true, t) ∧
            HasConnection s t (s.upcoming (s.successAt retries - 1)) ∨
          (∀ i < retries, (s.upcoming i).isAccepted = false) ∧ s.connect retries base = (.ok false, t) ∧
            SameConnection s t)) ∧
    (∀ retries base i fault, i + 1 < min retries (s.successAt retries) → (∀ j < i, base.fault? j = none) →
      base.fault? i = some fault →
        ∃ t, s.connect retries base = (.error fault, t) ∧ Passed s t (i + 1) (base.waits 0 i) ∧ SameConnection s t) ∧
    (∃ t, Passed s t (min 5 (s.successAt 5)) (["1.0", "2.0", "4.0", "8.0", "16.0"].take (min 5 (s.successAt 5))) ∧
      ((∃ i < 5, (s.upcoming i).isAccepted = true) ∧ s.reconnect = (.ok true, t) ∧
          HasConnection s t (s.upcoming (s.successAt 5 - 1)) ∨
        (∀ i < 5, (s.upcoming i).isAccepted = false) ∧ s.reconnect = (.ok false, t) ∧
          SameConnection { s with running := false } t)) ∧
    ∀ silent u, Turns silent s u → u.running = true → Loses silent u →
      (∃ t, Again u t ∧ u.turn silent = (none, t) ∧ ∀ w, Turns silent t w →
        u.asked < w.asked ∧ u.channels.length < w.channels.length) ∨
      (∃ t, NotAgain u t ∧ s.listen silent = (.stopped, t)) := by
  refine ⟨Delay.fault?_eq_none_iff, fun retries base => connect_of_had, fun retries base i fault => connect_of_fault,
    ?_, ?_⟩
  · obtain ⟨t, passed, outcome⟩ := reconnect_outcome s
    rw [Delay.waits_default (Nat.min_le_left _ _)] at passed
    exact ⟨t, passed, outcome⟩
  · intro silent u turns running lost
    rcases turn_of_lost running lost with ⟨t, again, turned⟩ | ⟨t, notAgain, listened⟩
    · refine .inl ⟨t, again, turned, fun w later => ?_⟩
      have grown := le_of_turns later
      exact ⟨Nat.lt_of_lt_of_le again.asked_lt grown.1, Nat.lt_of_lt_of_le again.channels_lt grown.2⟩
    · exact .inr ⟨t, notAgain, (listen_of_turns turns).trans listened⟩

/-- A client that listens on a broken connection and gets the next one at the second attempt. -/
def dropped : Session :=
  { start "localhost" 5000 [.refused "down", .accepted [.cancel] false] with arriving := [.reset], running := true }

theorem connecting_backs_off_of_dropped :
    (∃ t, Passed dropped t 2 ["1.0"] ∧
      ((∃ i < 3, (dropped.upcoming i).isAccepted = true) ∧ dropped.connect 3 defaultDelay = (.ok true, t) ∧
          HasConnection dropped t (.accepted [.cancel] false) ∨
        (∀ i < 3, (dropped.upcoming i).isAccepted = false) ∧ dropped.connect 3 defaultDelay = (.ok false, t) ∧
          SameConnection dropped t)) ∧
    (∃ t, (start "localhost" 5000 []).connect 1030 (.double 0) = (.error .overflow, t) ∧
      Passed (start "localhost" 5000 []) t 1025 ((Delay.double 0).waits 0 1024) ∧
      SameConnection (start "localhost" 5000 []) t) ∧
    ((∃ t, Again dropped t ∧ dropped.turn true = (none, t) ∧ ∀ w, Turns true t w →
        dropped.asked < w.asked ∧ dropped.channels.length < w.channels.length) ∨
      (∃ t, NotAgain dropped t ∧ dropped.listen true = (.stopped, t))) := by
  have had (i : Nat) (few : i < 1024) (x : Float) : (Delay.double x).fault? i = none := if_neg (Nat.not_le.2 few)
  refine ⟨?_, ?_, ?_⟩
  · have seconds : defaultDelay.waits 0 1 = ["1.0"] := Delay.waits_default (by decide)
    rw [← seconds]
    refine (connecting_backs_off dropped).2.1 3 defaultDelay fun i more => had i ?_ 1
    have all : min 3 (dropped.successAt 3) = 2 := by decide
    omega
  · exact (connecting_backs_off (start "localhost" 5000 [])).2.2.1 1030 (.double 0) 1024 .overflow (by decide)
      (fun j few => had j few 0) rfl
  · exact (connecting_backs_off dropped).2.2.2.2 true dropped (.here dropped) rfl (.reset rfl)

/-- Of 1030 attempts only 1025 are made, all of them refused: the delay behind them cannot be had. -/
theorem connecting_broke_off :
    ∃ t, (start "localhost" 5000 []).connect 1030 (.double 0) = (.error .overflow, t) ∧ t.asked = 1025 := by
  have more : 1024 + 1 < min 1030 ((start "localhost" 5000 []).successAt 1030) := by decide
  have had : ∀ i < 1024, (Delay.double 0).fault? i = none := fun i few => if_neg (Nat.not_le.2 few)
  obtain ⟨t, connected, passed, -⟩ := connect_of_fault more had rfl
  exact ⟨t, connected, passed.asked⟩

end Session

end ChatService.Client
