import ChatService.Proofs.Client.Connecting
import ChatService.Proofs.Client.Display

/-!
# Listening

What listening makes of what arrives. A line of few enough bytes that holds no value is
reported, and a message that can be shown is shown; every other line ends listening for
good. So listening that meets no such line ends only when it is cancelled, when the client
no longer runs or cannot connect again, or when a silent connection has nothing more.
-/

namespace ChatService.Client

/-- What arrives on the connection that an attempt brings. -/
def Attempt.arrivals : Attempt → List Arrival
  | .refused _ => []
  | .accepted arrivals _ => arrivals

namespace Session

/-! ## Lines -/

/-- A line with few enough bytes in front of its line feed to be read. -/
def Fits (bytes : List UInt8) : Prop := (bytes.takeWhile (· != lineFeed)).length ≤ lineLimit

/-- A line that is reported as malformed, or holds a message that can be shown. -/
inductive Harmless (bytes : List UInt8) : Prop
  | malformed {text : String} {stop : Json.Stop} (fits : Fits bytes) (decoded : Text.ofUtf8? bytes = some text)
      (read : Json.read (Text.strip text.toList) = .error (.malformed stop))
  | message {text : String} {v : Json} (fits : Fits bytes) (decoded : Text.ofUtf8? bytes = some text)
      (read : Json.read (Text.strip text.toList) = .ok v) (showable : Showable v)

/-- What a line is to the client. -/
inductive Content
  | harm (fault : ListenFault)
  | malformed (reason : String)
  | message (v : Json)

def content (bytes : List UInt8) : Content :=
  if lineLimit < (bytes.takeWhile (· != lineFeed)).length then .harm .oversized
  else
    match Text.ofUtf8? bytes with
    | none => .harm .undecodable
    | some text =>
      match Json.read (Text.strip text.toList) with
      | .error (.malformed stop) => .malformed (stop.message (Text.strip text.toList))
      | .error (.oversized _) => .harm .unreadable
      | .ok v => .message v

/-- Why listening ends at a line. -/
def lineFault? (bytes : List UInt8) : Option ListenFault :=
  match content bytes with
  | .harm fault => some fault
  | .malformed _ => none
  | .message v => (fault? (display v)).map .display

/-- What comes out for a line. -/
def reports (bytes : List UInt8) : List String :=
  match content bytes with
  | .harm _ => []
  | .malformed reason => [logged (malformedLine reason)]
  | .message v => [printed (display v)]

/-- The name that the client is logged in under after a line. -/
def nameBehind (current : Json) (bytes : List UInt8) : Json :=
  match content bytes with
  | .message v => nameAfter current v
  | _ => current

theorem content_eq_malformed_iff {bytes : List UInt8} {reason : String} :
    content bytes = .malformed reason ↔
      Fits bytes ∧ ∃ text stop, Text.ofUtf8? bytes = some text ∧
        Json.read (Text.strip text.toList) = .error (.malformed stop) ∧
        stop.message (Text.strip text.toList) = reason := by
  rw [content, Fits, ← Nat.not_lt]
  by_cases long : lineLimit < (bytes.takeWhile (· != lineFeed)).length
  · simp [long]
  · cases Text.ofUtf8? bytes with
    | none => simp [long]
    | some text =>
      simp only [long, if_false, not_false_eq_true, true_and, Option.some.injEq, exists_and_left, exists_eq_left']
      rcases Json.read (Text.strip text.toList) with (stop | digits) | v <;> simp

theorem content_eq_message_iff {bytes : List UInt8} {v : Json} :
    content bytes = .message v ↔
      Fits bytes ∧ ∃ text, Text.ofUtf8? bytes = some text ∧ Json.read (Text.strip text.toList) = .ok v := by
  rw [content, Fits, ← Nat.not_lt]
  by_cases long : lineLimit < (bytes.takeWhile (· != lineFeed)).length
  · simp [long]
  · cases Text.ofUtf8? bytes with
    | none => simp [long]
    | some text =>
      simp only [long, if_false, not_false_eq_true, true_and, Option.some.injEq, exists_eq_left']
      rcases Json.read (Text.strip text.toList) with (stop | digits) | v <;> simp

theorem lineFault?_eq_none_iff (bytes : List UInt8) : lineFault? bytes = none ↔ Harmless bytes := by
  constructor
  · intro none
    cases found : content bytes with
    | harm fault => simp [lineFault?, found] at none
    | malformed reason =>
      obtain ⟨fits, text, stop, decoded, read, -⟩ := content_eq_malformed_iff.1 found
      exact .malformed fits decoded read
    | message v =>
      obtain ⟨fits, text, decoded, read⟩ := content_eq_message_iff.1 found
      refine .message fits decoded read ((fault?_display_eq_none_iff v).1 ?_)
      simpa [lineFault?, found] using none
  · rintro (⟨fits, decoded, read⟩ | ⟨fits, decoded, read, showable⟩)
    · rw [lineFault?, content_eq_malformed_iff.2 ⟨fits, _, _, decoded, read, rfl⟩]
    · rw [lineFault?, content_eq_message_iff.2 ⟨fits, _, decoded, read⟩]
      exact Option.map_eq_none_iff.2 ((fault?_display_eq_none_iff _).2 showable)

variable {silent : Bool} {s t u : Session}

/-- The session behind lines that were handled, in front of what arrives behind them. -/
def heard (s : Session) (lines : List (List UInt8)) (rest : List Arrival) : Session :=
  { s with
    arriving := rest
    out := s.out ++ lines.flatMap reports
    username := lines.foldl nameBehind s.username }

theorem heard_nil (s : Session) : s.heard [] s.arriving = s := by
  rw [heard, List.flatMap_nil, List.append_nil, List.foldl_nil]

theorem heard_cons (s : Session) (bytes : List UInt8) (lines : List (List UInt8)) (rest behind : List Arrival) :
    (s.heard [bytes] rest).heard lines behind = s.heard (bytes :: lines) behind := by
  simp [heard]

theorem handleLine_eq (s : Session) (bytes : List UInt8) :
    s.handleLine bytes = (lineFault? bytes, s.heard [bytes] s.arriving) := by
  simp only [handleLine, lineFault?, heard, List.flatMap_singleton, List.foldl_cons, List.foldl_nil, reports, nameBehind,
    content]
  split
  · simp
  · cases Text.ofUtf8? bytes with
    | none => simp
    | some text =>
      cases read : Json.read (Text.strip text.toList) with
      | error fault => cases fault <;> simp [read, log, print]
      | ok v => simp [read, handleMessage, print]

/-! ## Turns -/

/-- The connection of a session is found to be lost by the next reading. -/
inductive Loses (silent : Bool) (s : Session) : Prop
  | closed (ends : silent = false) (nothing : s.arriving = [])
  | ended {rest : List Arrival} (next : s.arriving = .line [] :: rest)
  | reset {rest : List Arrival} (next : s.arriving = .reset :: rest)

/-- A lost connection has been replaced by the one that the first successful round brought. -/
structure Again (s t : Session) : Prop where
  success : ∃ i < reconnectRounds, (s.upcoming i).isAccepted = true
  passed : Passed s t (min reconnectRounds (s.successAt reconnectRounds))
    (defaultDelay.waits 0 (min reconnectRounds (s.successAt reconnectRounds)))
  now : HasConnection s t (s.upcoming (s.successAt reconnectRounds - 1))

/-- All rounds have failed. -/
structure NotAgain (s t : Session) : Prop where
  refused : ∀ i < reconnectRounds, (s.upcoming i).isAccepted = false
  passed : Passed s t reconnectRounds (defaultDelay.waits 0 reconnectRounds)
  arriving : t.arriving = s.arriving.tail
  channels : t.channels = s.channels
  off : t.running = false

/-- The ways in which a turn ends: everything that one reading can lead to. -/
inductive Turned (silent : Bool) (s : Session) : Option ListenEnd × Session → Prop
  | heard {bytes : List UInt8} {rest : List Arrival} (next : s.arriving = .line bytes :: rest) (some : bytes ≠ [])
      (harmless : Harmless bytes) : Turned silent s (none, s.heard [bytes] rest)
  | failed {bytes : List UInt8} {rest : List Arrival} {fault : ListenFault} (next : s.arriving = .line bytes :: rest)
      (some : bytes ≠ []) (found : lineFault? bytes = .some fault) :
      Turned silent s (.some (.failed fault), s.heard [bytes] rest)
  | again {t : Session} (lost : Loses silent s) (again : Again s t) : Turned silent s (none, t)
  | notAgain {t : Session} {reason : Option ListenEnd} (lost : Loses silent s) (notAgain : NotAgain s t)
      (stops : reason = none ∨ reason = some .stopped) : Turned silent s (reason, t)
  | cancelled {rest : List Arrival} {t : Session} (next : s.arriving = .cancel :: rest) :
      Turned silent s (some .cancelled, t)
  | waiting (stays : silent = true) (nothing : s.arriving = []) : Turned silent s (some .waiting, s)

/-- Since a session only what arrived next was read, and something was printed. -/
structure Popped (s t : Session) : Prop where
  passed : Passed s t 0 []
  arriving : t.arriving = s.arriving.tail
  channel : t.channel = s.channel
  past : t.past = s.past

theorem popped_of_tail {rest : List Arrival} (tail : rest = s.arriving.tail) : Popped s { s with arriving := rest } :=
  ⟨⟨rfl, rfl, (List.append_nil _).symm, ⟨rfl, rfl⟩, rfl⟩, tail, rfl, rfl⟩

theorem Popped.log (popped : Popped s t) (line : LogLine) : Popped s (t.log line) :=
  ⟨popped.passed.trans (.log t line), popped.arriving, popped.channel, popped.past⟩

theorem reconnect_of_popped (popped : Popped s t) :
    (∃ u, t.reconnect = (.ok true, u) ∧ Again s u) ∨ (∃ u, t.reconnect = (.ok false, u) ∧ NotAgain s u) := by
  obtain ⟨u, made, outcome⟩ := reconnect_outcome t
  have upcoming (i : Nat) : t.upcoming i = s.upcoming i := by rw [popped.passed.upcoming, Nat.zero_add]
  have successAt : t.successAt reconnectRounds = s.successAt reconnectRounds := by
    rw [Session.successAt, Session.successAt, popped.passed.attempts, List.drop_zero]
  have channels : t.channels = s.channels := by
    rw [Session.channels, Session.channels, popped.past, popped.channel]
  have whole := popped.passed.trans made
  rw [Nat.zero_add, List.nil_append, successAt] at whole
  simp only [upcoming, successAt] at outcome
  rcases outcome with ⟨success, found, now⟩ | ⟨refused, found, off⟩
  · obtain ⟨arrivals, broken, met, arriving, channel, past, running⟩ := now
    exact .inl ⟨u, found, success, whole, arrivals, broken, met, arriving, channel, past.trans channels, running⟩
  · rw [min_successAt_of_refused refused] at whole
    refine .inr ⟨u, found, refused, whole, off.arriving.trans popped.arriving, ?_, off.running⟩
    rw [← channels, Session.channels, Session.channels, off.past, off.channel]

theorem turned_endOfFile (lost : Loses silent s) (popped : Popped s t) : Turned silent s t.endOfFile := by
  rw [endOfFile]
  rcases reconnect_of_popped (popped.log _) with ⟨u, found, again⟩ | ⟨u, found, notAgain⟩
  · rw [found]
    exact .again lost again
  · rw [found]
    exact .notAgain lost notAgain (.inl rfl)

theorem turned_connectionLost (lost : Loses silent s) (popped : Popped s t) : Turned silent s t.connectionLost := by
  rw [connectionLost]
  rcases reconnect_of_popped (popped.log _) with ⟨u, found, again⟩ | ⟨u, found, notAgain⟩
  · rw [found]
    exact .again lost again
  · rw [found]
    exact .notAgain lost notAgain (.inr rfl)

theorem turn_of_line {bytes : List UInt8} {rest : List Arrival} (next : s.arriving = .line bytes :: rest)
    (some : bytes ≠ []) :
    s.turn silent = ((lineFault? bytes).map .failed, s.heard [bytes] rest) := by
  have more : bytes.isEmpty = false := Bool.eq_false_iff.2 (mt List.isEmpty_iff.1 some)
  simp only [turn, next, more, Bool.false_eq_true, if_false, handleLine_eq]
  cases lineFault? bytes <;> rfl

theorem turned_turn (silent : Bool) (s : Session) : Turned silent s (s.turn silent) := by
  cases next : s.arriving with
  | nil =>
    have popped : Popped s s := popped_of_tail (by rw [next, List.tail_nil])
    rw [turn, next]
    cases silent with
    | true => exact .waiting rfl next
    | false => exact turned_endOfFile (.closed rfl next) popped
  | cons first rest =>
    have popped : Popped s { s with arriving := rest } := popped_of_tail (by rw [next, List.tail_cons])
    cases first with
    | line bytes =>
      cases bytes with
      | nil =>
        simp only [turn, next]
        exact turned_endOfFile (.ended next) popped
      | cons byte bytes =>
        have some : byte :: bytes ≠ [] := List.cons_ne_nil byte bytes
        rw [turn_of_line next some]
        cases found : lineFault? (byte :: bytes) with
        | none => exact .heard next some ((lineFault?_eq_none_iff _).1 found)
        | some fault => exact .failed next some found
    | reset =>
      rw [turn, next]
      exact turned_connectionLost (.reset next) popped
    | cancel =>
      rw [turn, next]
      exact .cancelled next

/-! ## From turn to turn -/

/-- The sessions that turns of listening lead to, while the client runs. -/
inductive Turns (silent : Bool) : Session → Session → Prop
  | here (s : Session) : Turns silent s s
  | turn {s t u : Session} (running : s.running = true) (turned : s.turn silent = (none, t))
      (more : Turns silent t u) : Turns silent s u

theorem listen_of_off (off : s.running = false) : s.listen silent = (.stopped, s) := by
  rw [listen]
  simp [off]

theorem listen_of_turn (running : s.running = true) (turned : s.turn silent = (none, t)) :
    s.listen silent = t.listen silent := by
  rw [listen]
  simp only [running, dite_true]
  split <;> simp_all

theorem listen_of_end {reason : ListenEnd} (running : s.running = true) (turned : s.turn silent = (some reason, t)) :
    s.listen silent = (reason, t) := by
  rw [listen]
  simp only [running, dite_true]
  split <;> simp_all

/-- Listening is turns up to one that ends it, or up to the client that no longer runs. -/
theorem listen_eq_of_turns (silent : Bool) (s : Session) :
    ∃ last, Turns silent s last ∧
      (last.running = false ∧ s.listen silent = (.stopped, last) ∨
        ∃ reason t, last.running = true ∧ last.turn silent = (some reason, t) ∧ s.listen silent = (reason, t)) := by
  induction s using listen.induct silent with
  | case1 s running reason t turned =>
    exact ⟨s, .here s, .inr ⟨reason, t, running, turned, listen_of_end running turned⟩⟩
  | case2 s running t turned ih =>
    obtain ⟨last, turns, ends⟩ := ih
    rw [listen_of_turn running turned]
    exact ⟨last, .turn running turned turns, ends⟩
  | case3 s off =>
    have off := Bool.eq_false_iff.2 off
    exact ⟨s, .here s, .inl ⟨off, listen_of_off off⟩⟩

/-! ## What can arrive -/

/-- Everything that arrives, now or on a connection to come. -/
def offered (s : Session) : List Arrival := s.arriving ++ s.attempts.flatMap Attempt.arrivals

theorem mem_offered {x : Arrival} : x ∈ s.offered ↔ x ∈ s.arriving ∨ ∃ a ∈ s.attempts, x ∈ a.arrivals := by
  rw [offered, List.mem_append, List.mem_flatMap]

theorem mem_attempts_of_passed {made : Nat} {waited : List String} (passed : Passed s t made waited) {a : Attempt}
    (left : a ∈ t.attempts) : a ∈ s.attempts := by
  rw [passed.attempts] at left
  exact List.mem_of_mem_drop left

theorem mem_offered_of_turn {x : Arrival} (turned : s.turn silent = (none, t)) (offered : x ∈ t.offered) :
    x ∈ s.offered := by
  have ends := turned_turn silent s
  rw [turned] at ends
  rw [mem_offered] at offered ⊢
  cases ends with
  | heard next =>
    rw [next]
    exact offered.imp_left (List.mem_cons_of_mem _)
  | again lost again =>
    refine .inr ?_
    rcases offered with arrives | ⟨a, left, arrives⟩
    · obtain ⟨arrivals, broken, met, rfl, -⟩ := again.now
      exact ⟨_, upcoming_mem again.now.isAccepted, by rwa [met]⟩
    · exact ⟨a, mem_attempts_of_passed again.passed left, arrives⟩
  | notAgain lost notAgain =>
    rw [notAgain.arriving] at offered
    refine offered.imp List.mem_of_mem_tail fun ⟨a, left, arrives⟩ => ?_
    exact ⟨a, mem_attempts_of_passed notAgain.passed left, arrives⟩

theorem mem_offered_of_turns {x : Arrival} (turns : Turns silent s t) (offered : x ∈ t.offered) : x ∈ s.offered := by
  induction turns with
  | here => exact offered
  | turn running turned more ih => exact mem_offered_of_turn turned (ih offered)

/-- The ways in which listening ends, by the session of its last reading. -/
inductive Ends (silent : Bool) (last : Session) : ListenEnd × Session → Prop
  | off (off : last.running = false) : Ends silent last (.stopped, last)
  | notAgain {t : Session} (lost : Loses silent last) (notAgain : NotAgain last t) : Ends silent last (.stopped, t)
  | cancelled {rest : List Arrival} {t : Session} (next : last.arriving = .cancel :: rest) :
      Ends silent last (.cancelled, t)
  | waiting (stays : silent = true) (nothing : last.arriving = []) : Ends silent last (.waiting, last)
  | failed {bytes : List UInt8} {rest : List Arrival} {fault : ListenFault}
      (next : last.arriving = .line bytes :: rest) (harmful : bytes ≠ [] ∧ ¬Harmless bytes) :
      Ends silent last (.failed fault, last.heard [bytes] rest)

theorem ends_listen (silent : Bool) (s : Session) :
    ∃ last, Turns silent s last ∧ Ends silent last (s.listen silent) := by
  obtain ⟨last, turns, ⟨off, listened⟩ | ⟨reason, t, running, turned, listened⟩⟩ := listen_eq_of_turns silent s
  · exact ⟨last, turns, listened ▸ .off off⟩
  · refine ⟨last, turns, listened ▸ ?_⟩
    have ends := turned_turn silent last
    rw [turned] at ends
    cases ends with
    | failed next some found =>
      exact .failed next ⟨some, fun harmless => nomatch found.symm.trans ((lineFault?_eq_none_iff _).2 harmless)⟩
    | notAgain lost notAgain stops =>
      rcases stops with none | stops
      · cases none
      · cases stops
        exact .notAgain lost notAgain
    | cancelled next => exact .cancelled next
    | waiting stays nothing => exact .waiting stays nothing

/-! ## Lines one after the other -/

theorem listen_of_harmless {bytes : List UInt8} {rest : List Arrival} (running : s.running = true)
    (next : s.arriving = .line bytes :: rest) (some : bytes ≠ []) (harmless : Harmless bytes) :
    s.listen silent = (s.heard [bytes] rest).listen silent := by
  refine listen_of_turn running ?_
  rw [turn_of_line next some, (lineFault?_eq_none_iff bytes).2 harmless, Option.map_none]

theorem listen_of_harmful {bytes : List UInt8} {rest : List Arrival} (running : s.running = true)
    (next : s.arriving = .line bytes :: rest) (some : bytes ≠ []) (harmful : ¬Harmless bytes) :
    ∃ fault, lineFault? bytes = .some fault ∧
      s.listen silent = (.failed fault, s.heard [bytes] rest) := by
  cases found : lineFault? bytes with
  | none => exact absurd ((lineFault?_eq_none_iff bytes).1 found) harmful
  | some fault =>
    refine ⟨fault, rfl, listen_of_end running ?_⟩
    rw [turn_of_line next some, found, Option.map_some]

theorem listen_of_all_harmless {lines : List (List UInt8)} {rest : List Arrival} (running : s.running = true)
    (next : s.arriving = lines.map Arrival.line ++ rest) (harmless : ∀ bytes ∈ lines, bytes ≠ [] ∧ Harmless bytes) :
    s.listen silent = (s.heard lines rest).listen silent := by
  induction lines generalizing s with
  | nil =>
    rw [List.map_nil, List.nil_append] at next
    rw [← next, heard_nil]
  | cons bytes lines ih =>
    have first := harmless bytes List.mem_cons_self
    have later := ih (s := s.heard [bytes] (lines.map Arrival.line ++ rest)) running rfl fun bytes inside =>
      harmless bytes (List.mem_cons_of_mem _ inside)
    rw [heard_cons] at later
    exact (listen_of_harmless running next first.1 first.2).trans later

/-- Listening outlives exactly the lines that are short enough to be read, encode a text, and are malformed or hold a
message that can be shown. Each of them is taken from what arrives, printed or reported once, and listening goes on
with what is behind it, whatever that is. Every other line ends listening at once, before anything behind it is read.
So listening in which no such line can arrive ends with a client that no longer runs or could not connect again, by
being cancelled, or in silence. -/
theorem listening_outlives_harmless_lines (silent : Bool) (s : Session) :
    (∀ lines rest, s.running = true → s.arriving = lines.map Arrival.line ++ rest →
      (∀ bytes ∈ lines, bytes ≠ [] ∧ Harmless bytes) →
        s.listen silent = (s.heard lines rest).listen silent) ∧
    (∀ bytes rest, s.running = true → s.arriving = .line bytes :: rest → bytes ≠ [] → ¬Harmless bytes →
      ∃ fault, lineFault? bytes = some fault ∧
        s.listen silent = (.failed fault, s.heard [bytes] rest)) ∧
    (∃ last, Turns silent s last ∧ Ends silent last (s.listen silent)) ∧
    ((∀ bytes, .line bytes ∈ s.offered → bytes = [] ∨ Harmless bytes) →
      ∀ fault, (s.listen silent).1 ≠ .failed fault) := by
  refine ⟨fun lines rest => listen_of_all_harmless, fun bytes rest => listen_of_harmful, ends_listen silent s, ?_⟩
  intro harmless fault failed
  obtain ⟨last, turns, ends⟩ := ends_listen silent s
  cases listened : s.listen silent with
  | mk reason t =>
    rw [listened] at ends failed
    cases ends with
    | @failed bytes rest fault next harmful =>
      have arrived : .line bytes ∈ last.offered := mem_offered.2 (.inl (next ▸ List.mem_cons_self))
      rcases harmless bytes (mem_offered_of_turns turns arrived) with none | fine
      · exact harmful.1 none
      · exact harmful.2 fine
    | _ => cases failed

/-- A client that listens to some arrivals and can have no other connection. -/
def listening (arriving : List Arrival) : Session :=
  { start "localhost" 5000 [] with arriving, running := true }

/-- The line that tells the client that it is logged out. -/
def goodbye : List UInt8 := Text.toUtf8 "\x7b\"type\": \"logout_success\"\x7d\n"

theorem harmless_goodbye : Harmless goodbye := (lineFault?_eq_none_iff goodbye).1 (by decide +kernel)

theorem not_harmless_of_bytes : ¬Harmless [255, 10] :=
  fun harmless => absurd ((lineFault?_eq_none_iff [255, 10]).2 harmless) (by decide +kernel)

theorem listening_outlives_harmless_lines_of_goodbye :
    (listening [.line goodbye, .line goodbye, .cancel]).listen false =
      ((listening [.line goodbye, .line goodbye, .cancel]).heard [goodbye, goodbye] [.cancel]).listen false ∧
    (∃ fault, lineFault? [255, 10] = some fault ∧ (listening [.line [255, 10], .line goodbye]).listen false =
      (.failed fault, (listening [.line [255, 10], .line goodbye]).heard [[255, 10]] [.line goodbye])) ∧
    ∀ fault, ((listening [.line goodbye, .cancel]).listen false).1 ≠ .failed fault := by
  have some : goodbye ≠ [] := by decide +kernel
  refine ⟨?_, ?_, ?_⟩
  · refine (listening_outlives_harmless_lines false _).1 [goodbye, goodbye] [.cancel] rfl rfl ?_
    simp [some, harmless_goodbye]
  · exact (listening_outlives_harmless_lines false _).2.1 [255, 10] [.line goodbye] rfl rfl
      (List.cons_ne_nil _ _) not_harmless_of_bytes
  · refine (listening_outlives_harmless_lines false _).2.2.2 fun bytes arrives => .inr ?_
    have same : bytes = goodbye := by simpa [offered, listening, start] using arrives
    exact same ▸ harmless_goodbye

/-- Bytes that are no text end listening, and the message behind them is not read. -/
theorem listening_ended_by_bytes :
    (listening [.line [255, 10], .line goodbye, .cancel]).listen false =
      (.failed .undecodable, listening [.line goodbye, .cancel]) := by
  have running : (listening [.line [255, 10], .line goodbye, .cancel]).running = true := rfl
  have undecodable : lineFault? [255, 10] = some .undecodable := by decide +kernel
  obtain ⟨fault, found, listened⟩ := listen_of_harmful running rfl (List.cons_ne_nil _ _) not_harmless_of_bytes
  cases undecodable.symm.trans found
  exact listened

end Session

end ChatService.Client
