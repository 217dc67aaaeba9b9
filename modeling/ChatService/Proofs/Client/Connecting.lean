import ChatService.Client.Session
import ChatService.Proofs.Decimal.Range

/-!
# Connecting

How many attempts connecting makes and what it waits for between them, whatever the
attempts meet. Between two attempts comes a delay, each twice as long as the one
before, and after the last attempt none. A client that could not connect has what it
had before.
-/

namespace ChatService.Client

def Attempt.isAccepted : Attempt → Bool
  | .refused _ => false
  | .accepted .. => true

/-- The delays after some failures in a row, as text; `failures` came before them. -/
def Delay.waits (base : Delay) (failures count : Nat) : List String :=
  (List.range count).map fun i => (base.doubled (failures + i)).text

namespace Delay

/-- A delay times a power of two that can be had. A double needs a power that is one too; a whole delay needs few
enough digits to be shown, and one that takes time must not round to more than every double. -/
def Had : Delay → (times : Nat) → Prop
  | whole n, times =>
    n.natAbs * 2 ^ times < unshowable ∧ (0 < n → n.natAbs * 2 ^ times < Binary64.wholeBound)
  | double _, times => times < overflowExponent

theorem fault?_eq_none_iff (base : Delay) (times : Nat) : base.fault? times = none ↔ base.Had times := by
  cases base with
  | whole n =>
    have size : n.natAbs <<< times = n.natAbs * 2 ^ times := Nat.shiftLeft_eq _ _
    simp only [fault?, Had, size, Bool.not_eq_true', ← Bool.not_eq_true, Binary64.isFinite_nearest_iff]
    split
    · next large => exact iff_of_false (by nofun) fun had => large.not_gt had.1
    · next small =>
      split
      · next endless => exact iff_of_false (by nofun) fun had => endless.2 (had.2 endless.1)
      · next waits =>
        refine iff_of_true rfl ⟨Nat.lt_of_not_le small, fun positive => ?_⟩
        exact Classical.byContradiction fun beyond => waits ⟨positive, beyond⟩
  | double x => simp [fault?, Had]

variable {base : Delay} {failures : Nat}

theorem waits_succ (base : Delay) (failures count : Nat) :
    base.waits failures (count + 1) = (base.doubled failures).text :: base.waits (failures + 1) count := by
  simp only [waits, List.range_succ_eq_map, List.map_cons, List.map_map, Nat.add_zero]
  congr 2
  funext i
  rw [Function.comp, Nat.succ_eq_add_one, Nat.add_assoc, Nat.add_comm 1]

/-- Delays that can be had after the first one can be had from the first one on. -/
theorem fault?_cons {count : Nat} (first : base.fault? failures = none)
    (later : ∀ i < count, base.fault? (failures + 1 + i) = none) :
    ∀ i < count + 1, base.fault? (failures + i) = none := by
  intro i inside
  cases i with
  | zero => exact first
  | succ i =>
    rw [Nat.add_comm i, ← Nat.add_assoc]
    exact later i (Nat.lt_of_succ_lt_succ inside)

end Delay

namespace Session

/-! ## What attempts change -/

/-- What the attempt after some others meets. Behind the last known one all are refused. -/
def upcoming (s : Session) (i : Nat) : Attempt := s.attempts.getD i (.refused "refused")

/-- The number of the first attempt that succeeds; the given one when none does. -/
def successAt (s : Session) (otherwise : Nat) : Nat :=
  ((s.attempts.findIdx? Attempt.isAccepted).map (· + 1)).getD otherwise

/-- A session after some attempts and delays, which are all that is recorded of it but for what was printed. -/
structure Passed (s t : Session) (made : Nat) (waited : List String) : Prop where
  asked : t.asked = s.asked + made
  attempts : t.attempts = s.attempts.drop made
  sleeps : t.sleeps = s.sleeps ++ waited
  address : t.host = s.host ∧ t.tcpPort = s.tcpPort
  username : t.username = s.username

/-- The connection is the one from before, and the client runs as before. -/
structure SameConnection (s t : Session) : Prop where
  arriving : t.arriving = s.arriving
  channel : t.channel = s.channel
  past : t.past = s.past
  running : t.running = s.running

/-- The connection is the one that an attempt has met, and the client runs. -/
def HasConnection (s t : Session) (met : Attempt) : Prop :=
  ∃ arrivals broken, met = .accepted arrivals broken ∧ t.arriving = arrivals ∧ t.channel = some ⟨broken, []⟩ ∧
    t.past = s.channels ∧ t.running = true

variable {s t u : Session} {made made' : Nat} {waited waited' : List String}

theorem HasConnection.isAccepted {met : Attempt} (now : HasConnection s t met) : met.isAccepted = true := by
  obtain ⟨arrivals, broken, rfl, -⟩ := now
  rfl

theorem Passed.trans (first : Passed s t made waited) (second : Passed t u made' waited') :
    Passed s u (made + made') (waited ++ waited') where
  asked := by rw [second.asked, first.asked, Nat.add_assoc]
  attempts := by rw [second.attempts, first.attempts, List.drop_drop]
  sleeps := by rw [second.sleeps, first.sleeps, List.append_assoc]
  address := ⟨second.address.1.trans first.address.1, second.address.2.trans first.address.2⟩
  username := second.username.trans first.username

theorem Passed.log (s : Session) (line : LogLine) : Passed s (s.log line) 0 [] :=
  ⟨rfl, rfl, (List.append_nil _).symm, ⟨rfl, rfl⟩, rfl⟩

theorem Passed.awaitRetry (s : Session) (total : Nat) (delay : Delay) (failures : Nat) :
    Passed s (s.awaitRetry total delay failures) 0 [delay.text] :=
  ⟨rfl, rfl, rfl, ⟨rfl, rfl⟩, rfl⟩

/-- Breaking off leaves at most a line behind. -/
theorem Passed.breakOff (s : Session) (total : Nat) (delay : Delay) (failures : Nat) (fault : DelayFault) :
    Passed s (s.breakOff total delay failures fault) 0 [] := by
  cases fault with
  | endless => exact .log s _
  | overflow | oversized => exact ⟨rfl, rfl, (List.append_nil _).symm, ⟨rfl, rfl⟩, rfl⟩

theorem SameConnection.trans (first : SameConnection s t) (second : SameConnection t u) : SameConnection s u :=
  ⟨second.arriving.trans first.arriving, second.channel.trans first.channel, second.past.trans first.past,
    second.running.trans first.running⟩

theorem SameConnection.log (s : Session) (line : LogLine) : SameConnection s (s.log line) := ⟨rfl, rfl, rfl, rfl⟩

theorem SameConnection.breakOff (s : Session) (total : Nat) (delay : Delay) (failures : Nat) (fault : DelayFault) :
    SameConnection s (s.breakOff total delay failures fault) := by
  cases fault <;> exact ⟨rfl, rfl, rfl, rfl⟩

/-- A connection that comes after what left the old one alone. -/
theorem HasConnection.behind {met : Attempt} (same : SameConnection s t) (now : HasConnection t u met) :
    HasConnection s u met := by
  obtain ⟨arrivals, broken, accepted, arriving, channel, past, running⟩ := now
  refine ⟨arrivals, broken, accepted, arriving, channel, past.trans ?_, running⟩
  rw [channels, channels, same.past, same.channel]

theorem Passed.upcoming (passed : Passed s t made waited) (i : Nat) : t.upcoming i = s.upcoming (made + i) := by
  rw [Session.upcoming, Session.upcoming, passed.attempts, List.getD_eq_getElem?_getD, List.getD_eq_getElem?_getD,
    List.getElem?_drop]

theorem Passed.refused_cons (passed : Passed s t 1 waited) (first : (s.upcoming 0).isAccepted = false) {count : Nat}
    (later : ∀ i < count, (t.upcoming i).isAccepted = false) :
    ∀ i < count + 1, (s.upcoming i).isAccepted = false := by
  intro i inside
  cases i with
  | zero => exact first
  | succ i =>
    rw [Nat.add_comm, ← passed.upcoming]
    exact later i (Nat.lt_of_succ_lt_succ inside)

theorem attempt_of_refused (refused : (s.upcoming 0).isAccepted = false) :
    ∃ reason t, s.attempt = (some reason, t) ∧ Passed s t 1 [] ∧ SameConnection s t := by
  obtain ⟨host, tcpPort, attempts, arriving, channel, past, running, username, out, sleeps, asked⟩ := s
  rcases attempts with - | ⟨reason | ⟨arrivals, broken⟩, rest⟩
  · exact ⟨_, _, rfl, ⟨rfl, rfl, (List.append_nil _).symm, ⟨rfl, rfl⟩, rfl⟩, ⟨rfl, rfl, rfl, rfl⟩⟩
  · exact ⟨_, _, rfl, ⟨rfl, rfl, (List.append_nil _).symm, ⟨rfl, rfl⟩, rfl⟩, ⟨rfl, rfl, rfl, rfl⟩⟩
  · cases refused

theorem attempt_of_accepted (accepted : (s.upcoming 0).isAccepted = true) :
    ∃ t, s.attempt = (none, t) ∧ Passed s t.connected 1 [] ∧ HasConnection s t.connected (s.upcoming 0) := by
  obtain ⟨host, tcpPort, attempts, arriving, channel, past, running, username, out, sleeps, asked⟩ := s
  rcases attempts with - | ⟨reason | ⟨arrivals, broken⟩, rest⟩
  · cases accepted
  · cases accepted
  · exact ⟨_, rfl, ⟨rfl, rfl, (List.append_nil _).symm, ⟨rfl, rfl⟩, rfl⟩,
      ⟨arrivals, broken, rfl, rfl, rfl, rfl, rfl⟩⟩

/-! ## Connecting with retries -/

/-- The ways in which connecting ends that has `left` attempts after `failures` failed ones. -/
inductive Connects (s : Session) (base : Delay) (failures left : Nat) : Except DelayFault Bool × Session → Prop
  | connected {i : Nat} {t : Session} (inside : i < left) (refused : ∀ j < i, (s.upcoming j).isAccepted = false)
      (had : ∀ j < i, base.fault? (failures + j) = none) (passed : Passed s t (i + 1) (base.waits failures i))
      (now : HasConnection s t (s.upcoming i)) : Connects s base failures left (.ok true, t)
  | gaveUp {t : Session} (refused : ∀ j < left, (s.upcoming j).isAccepted = false)
      (had : ∀ j, j + 1 < left → base.fault? (failures + j) = none)
      (passed : Passed s t left (base.waits failures (left - 1))) (same : SameConnection s t) :
      Connects s base failures left (.ok false, t)
  | brokeOff {i : Nat} {fault : DelayFault} {t : Session} (inside : i + 1 < left)
      (refused : ∀ j < i + 1, (s.upcoming j).isAccepted = false) (had : ∀ j < i, base.fault? (failures + j) = none)
      (broken : base.fault? (failures + i) = some fault) (passed : Passed s t (i + 1) (base.waits failures i))
      (same : SameConnection s t) : Connects s base failures left (.error fault, t)

/-- A refused attempt and the delay after it before an end of connecting. -/
theorem Connects.retry {base : Delay} {failures left : Nat} {result : Except DelayFault Bool × Session}
    (passed : Passed s t 1 [(base.doubled failures).text]) (same : SameConnection s t)
    (refused : (s.upcoming 0).isAccepted = false) (had : base.fault? failures = none) (again : 0 < left)
    (later : Connects t base (failures + 1) left result) : Connects s base failures (left + 1) result := by
  cases later with
  | @connected i u inside refused' had' passed' now =>
    have whole := passed.trans passed'
    rw [List.singleton_append, ← Delay.waits_succ, Nat.add_comm 1] at whole
    rw [passed.upcoming, Nat.add_comm 1] at now
    exact .connected (Nat.succ_lt_succ inside) (passed.refused_cons refused refused') (Delay.fault?_cons had had')
      whole (now.behind same)
  | @gaveUp u refused' had' passed' same' =>
    have whole := passed.trans passed'
    rw [List.singleton_append, ← Delay.waits_succ, Nat.add_comm 1, Nat.sub_add_cancel again] at whole
    refine .gaveUp (passed.refused_cons refused refused') ?_ whole (same.trans same')
    intro j inside
    exact Delay.fault?_cons had (fun i (below : i < left - 1) => had' i (by omega)) j (by omega)
  | @brokeOff i fault u inside refused' had' broken passed' same' =>
    have whole := passed.trans passed'
    rw [List.singleton_append, ← Delay.waits_succ, Nat.add_comm 1] at whole
    rw [Nat.add_assoc, Nat.add_comm 1] at broken
    exact .brokeOff (Nat.succ_lt_succ inside) (passed.refused_cons refused refused') (Delay.fault?_cons had had')
      broken whole (same.trans same')

theorem connects_connectFrom (s : Session) (total : Nat) (base : Delay) (failures left : Nat) :
    Connects s base failures left (s.connectFrom total base failures left) := by
  induction left generalizing s failures with
  | zero =>
    exact .gaveUp (by simp) (by simp) ⟨rfl, rfl, (List.append_nil _).symm, ⟨rfl, rfl⟩, rfl⟩ ⟨rfl, rfl, rfl, rfl⟩
  | succ left ih =>
    rw [connectFrom]
    cases met : (s.upcoming 0).isAccepted with
    | true =>
      obtain ⟨t, attempted, passed, now⟩ := attempt_of_accepted met
      rw [attempted]
      exact .connected (Nat.succ_pos left) (by simp) (by simp) passed now
    | false =>
      obtain ⟨reason, t, attempted, passed, same⟩ := attempt_of_refused met
      rw [attempted]
      have passed' : Passed s (t.refusedConnection reason) 1 [] :=
        (passed.trans (.log t _)).trans (.log _ _)
      have same' : SameConnection s (t.refusedConnection reason) := (same.trans (.log t _)).trans (.log _ _)
      have first : ∀ j < 1, (s.upcoming j).isAccepted = false := by
        intro j inside
        rwa [Nat.lt_one_iff.1 inside]
      dsimp only
      split
      · next last =>
        subst last
        exact .gaveUp first (by omega) (passed'.trans (.log _ _)) (same'.trans (.log _ _))
      · next more =>
        split
        · next fault broken =>
          have many : 0 + 1 < left + 1 := by omega
          exact .brokeOff many first (by simp) broken (passed'.trans (.breakOff ..)) (same'.trans (.breakOff ..))
        · next had =>
          exact .retry (passed'.trans (.awaitRetry _ total (base.doubled failures) (failures + 1)))
            (same'.trans ⟨rfl, rfl, rfl, rfl⟩) met had (by omega) (ih _ _)

theorem connects_connect (s : Session) (retries : Nat) (base : Delay) :
    Connects s base 0 retries (s.connect retries base) :=
  connects_connectFrom s retries base 0 retries

/-! ## Connecting again -/

/-- The ways in which connecting again ends that has `left` rounds from `round` on. -/
inductive Reconnects (s : Session) (round left : Nat) : Except DelayFault Bool × Session → Prop
  | connected {i : Nat} {t : Session} (inside : i < left) (refused : ∀ j < i, (s.upcoming j).isAccepted = false)
      (passed : Passed s t (i + 1) (defaultDelay.waits round (i + 1))) (now : HasConnection s t (s.upcoming i)) :
      Reconnects s round left (.ok true, t)
  | gaveUp {t : Session} (refused : ∀ j < left, (s.upcoming j).isAccepted = false)
      (passed : Passed s t left (defaultDelay.waits round left)) (off : SameConnection { s with running := false } t) :
      Reconnects s round left (.ok false, t)

/-- A round is one delay and one attempt. -/
theorem connects_round (s : Session) (round : Nat) :
    (∃ t, (s.awaitRound round).connect 1 defaultDelay = (.ok true, t) ∧ (s.upcoming 0).isAccepted = true ∧
      Passed s t 1 [(defaultDelay.doubled round).text] ∧ HasConnection s t (s.upcoming 0)) ∨
    (∃ t, (s.awaitRound round).connect 1 defaultDelay = (.ok false, t) ∧ (s.upcoming 0).isAccepted = false ∧
      Passed s t 1 [(defaultDelay.doubled round).text] ∧ SameConnection s t) := by
  have waiting : Passed s (s.awaitRound round) 0 [(defaultDelay.doubled round).text] :=
    ⟨rfl, rfl, rfl, ⟨rfl, rfl⟩, rfl⟩
  have quiet : SameConnection s (s.awaitRound round) := ⟨rfl, rfl, rfl, rfl⟩
  have ends := connects_connect (s.awaitRound round) 1 defaultDelay
  generalize (s.awaitRound round).connect 1 defaultDelay = result at ends
  cases ends with
  | @connected i t inside refused had passed now =>
    obtain rfl : i = 0 := by omega
    exact .inl ⟨t, rfl, (now.behind quiet).isAccepted, waiting.trans passed, now.behind quiet⟩
  | @gaveUp t refused had passed same =>
    exact .inr ⟨t, rfl, refused 0 Nat.one_pos, waiting.trans passed, quiet.trans same⟩
  | brokeOff inside => omega

theorem reconnects_reconnectFrom (s : Session) (round left : Nat) :
    Reconnects s round left (s.reconnectFrom round left) := by
  induction left generalizing s round with
  | zero =>
    exact .gaveUp (by simp) ⟨rfl, rfl, (List.append_nil _).symm, ⟨rfl, rfl⟩, rfl⟩ ⟨rfl, rfl, rfl, rfl⟩
  | succ left ih =>
    rw [reconnectFrom]
    rcases connects_round s round with ⟨t, found, -, passed, now⟩ | ⟨t, found, refused, passed, same⟩
    · rw [found]
      exact .connected (Nat.succ_pos left) (by simp) (passed.trans (.log t _)) now
    · rw [found]
      have later := ih t (round + 1)
      dsimp only
      generalize t.reconnectFrom (round + 1) left = result at later
      cases later with
      | @connected i u inside refused' passed' now =>
        have whole := passed.trans passed'
        rw [List.singleton_append, ← Delay.waits_succ, Nat.add_comm 1] at whole
        rw [passed.upcoming, Nat.add_comm 1] at now
        exact .connected (Nat.succ_lt_succ inside) (passed.refused_cons refused refused') whole (now.behind same)
      | @gaveUp u refused' passed' off =>
        have whole := passed.trans passed'
        rw [List.singleton_append, ← Delay.waits_succ, Nat.add_comm 1] at whole
        exact .gaveUp (passed.refused_cons refused refused') whole
          ⟨off.arriving.trans same.arriving, off.channel.trans same.channel, off.past.trans same.past, off.running⟩

theorem reconnects_reconnect (s : Session) : Reconnects s 0 reconnectRounds s.reconnect :=
  reconnects_reconnectFrom s 0 reconnectRounds

/-! ## The first success -/

theorem upcoming_eq_getElem {i : Nat} (known : i < s.attempts.length) : s.upcoming i = s.attempts[i] := by
  rw [upcoming, List.getD_eq_getElem?_getD, List.getElem?_eq_getElem known, Option.getD_some]

theorem lt_of_accepted {i : Nat} (accepted : (s.upcoming i).isAccepted = true) : i < s.attempts.length := by
  rcases Nat.lt_or_ge i s.attempts.length with known | beyond
  · exact known
  · rw [upcoming, List.getD_eq_getElem?_getD, List.getElem?_eq_none beyond] at accepted
    cases accepted

theorem upcoming_mem {i : Nat} (accepted : (s.upcoming i).isAccepted = true) : s.upcoming i ∈ s.attempts := by
  rw [upcoming_eq_getElem (lt_of_accepted accepted)]
  exact List.getElem_mem _

theorem successAt_of_accepted {i otherwise : Nat} (accepted : (s.upcoming i).isAccepted = true)
    (refused : ∀ j < i, (s.upcoming j).isAccepted = false) : s.successAt otherwise = i + 1 := by
  have inside := lt_of_accepted accepted
  have found : s.attempts.findIdx? Attempt.isAccepted = some i := by
    rw [List.findIdx?_eq_some_iff_getElem]
    refine ⟨inside, upcoming_eq_getElem inside ▸ accepted, fun j below => ?_⟩
    rw [← upcoming_eq_getElem (by omega), refused j below]
    exact Bool.false_ne_true
  rw [successAt, found]
  rfl

/-- The first success lies behind attempts that are refused. -/
theorem successAt_cases {made : Nat} (refused : ∀ j < made, (s.upcoming j).isAccepted = false) (otherwise : Nat) :
    s.successAt otherwise = otherwise ∨ made < s.successAt otherwise := by
  rw [successAt]
  cases found : s.attempts.findIdx? Attempt.isAccepted with
  | none => exact .inl rfl
  | some i =>
    obtain ⟨inside, accepted, -⟩ := List.findIdx?_eq_some_iff_getElem.1 found
    refine .inr (show made < i + 1 from ?_)
    rcases Nat.lt_or_ge i made with before | beyond
    · have refused' := refused i before
      rw [upcoming_eq_getElem inside, accepted] at refused'
      cases refused'
    · omega

theorem min_successAt_of_refused {made : Nat} (refused : ∀ j < made, (s.upcoming j).isAccepted = false) :
    min made (s.successAt made) = made := by
  rcases successAt_cases refused made with none | beyond <;> omega

/-- Where all delays up to the first success can be had, connecting makes the attempts up to it, or all. -/
theorem connect_of_had {retries : Nat} {base : Delay}
    (had : ∀ i, i + 1 < min retries (s.successAt retries) → base.fault? i = none) :
    ∃ t, Passed s t (min retries (s.successAt retries)) (base.waits 0 (min retries (s.successAt retries) - 1)) ∧
      ((∃ i < retries, (s.upcoming i).isAccepted = true) ∧ s.connect retries base = (.ok true, t) ∧
          HasConnection s t (s.upcoming (s.successAt retries - 1)) ∨
        (∀ i < retries, (s.upcoming i).isAccepted = false) ∧ s.connect retries base = (.ok false, t) ∧
          SameConnection s t) := by
  have ends := connects_connect s retries base
  generalize s.connect retries base = result at ends
  cases ends with
  | @connected i t inside refused had passed now =>
    have first : s.successAt retries = i + 1 := successAt_of_accepted now.isAccepted refused
    rw [first, Nat.min_eq_right inside]
    exact ⟨t, passed, .inl ⟨⟨i, inside, now.isAccepted⟩, rfl, now⟩⟩
  | @gaveUp t refused had passed same =>
    rw [min_successAt_of_refused refused]
    exact ⟨t, passed, .inr ⟨refused, rfl, same⟩⟩
  | @brokeOff i fault t inside refused _ broken _ _ =>
    have early : i + 1 < min retries (s.successAt retries) := by
      rcases successAt_cases refused retries with none | beyond <;> omega
    rw [Nat.zero_add, had i early] at broken
    cases broken

/-- Connecting breaks off at the first delay that cannot be had. -/
theorem connect_of_fault {retries i : Nat} {base : Delay} {fault : DelayFault}
    (more : i + 1 < min retries (s.successAt retries)) (had : ∀ j < i, base.fault? j = none)
    (broken : base.fault? i = some fault) :
    ∃ t, s.connect retries base = (.error fault, t) ∧ Passed s t (i + 1) (base.waits 0 i) ∧ SameConnection s t := by
  have ends := connects_connect s retries base
  have first {m : Nat} (had' : ∀ j < m, base.fault? (0 + j) = none) : m ≤ i := by
    rcases Nat.lt_or_ge i m with inside | beyond
    · have none := had' i inside
      rw [Nat.zero_add, broken] at none
      cases none
    · exact beyond
  generalize s.connect retries base = result at ends
  cases ends with
  | @connected m t inside refused had' passed now =>
    have success : s.successAt retries = m + 1 := successAt_of_accepted now.isAccepted refused
    have := first had'
    omega
  | @gaveUp t refused had' passed same =>
    have := first (m := retries - 1) fun j inside => had' j (by omega)
    omega
  | @brokeOff m fault' t inside refused had' broken' passed same =>
    obtain rfl : m = i := by
      rcases Nat.lt_or_ge m i with before | beyond
      · rw [Nat.zero_add, had m before] at broken'
        cases broken'
      · exact Nat.le_antisymm (first had') beyond
    rw [Nat.zero_add, broken] at broken'
    cases broken'
    exact ⟨t, rfl, passed, same⟩

/-- The rounds of connecting again go up to the first success, or through all of them. -/
theorem reconnect_outcome (s : Session) :
    ∃ t, Passed s t (min reconnectRounds (s.successAt reconnectRounds))
        (defaultDelay.waits 0 (min reconnectRounds (s.successAt reconnectRounds))) ∧
      ((∃ i < reconnectRounds, (s.upcoming i).isAccepted = true) ∧ s.reconnect = (.ok true, t) ∧
          HasConnection s t (s.upcoming (s.successAt reconnectRounds - 1)) ∨
        (∀ i < reconnectRounds, (s.upcoming i).isAccepted = false) ∧ s.reconnect = (.ok false, t) ∧
          SameConnection { s with running := false } t) := by
  have ends := reconnects_reconnect s
  generalize s.reconnect = result at ends
  cases ends with
  | @connected i t inside refused passed now =>
    have first : s.successAt reconnectRounds = i + 1 := successAt_of_accepted now.isAccepted refused
    rw [first, Nat.min_eq_right inside]
    exact ⟨t, passed, .inl ⟨⟨i, inside, now.isAccepted⟩, rfl, now⟩⟩
  | @gaveUp t refused passed off =>
    rw [min_successAt_of_refused refused]
    exact ⟨t, passed, .inr ⟨refused, rfl, off⟩⟩

end Session

end ChatService.Client
