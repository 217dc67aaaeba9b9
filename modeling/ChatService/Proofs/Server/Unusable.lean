import ChatService.Proofs.Protocol.Wire
import ChatService.Proofs.Server.Chunks
import ChatService.Proofs.Server.Replicas

/-!
# Unusable lines

A line that asks for nothing has no effect. It may be complained about, to nobody but the
connection that it came from, and the server stays as it was. So such lines can arrive
between the other lines of a run at any place, and everything else goes on as without them.
-/

namespace ChatService

/-- The types of the requests. -/
def Request.types : List Text :=
  ["register", "login", "logout", "heartbeat", "chat", "private_message", "get_history", "get_private_history",
   "add_contact", "get_contacts"]

theorem Request.ofFields?_eq_none_iff {type : Text} {fields : List (Text × Json)} :
    ofFields? type fields = none ↔ type ∉ types := by
  constructor
  · intro none known
    simp only [types, List.mem_cons, List.not_mem_nil, or_false] at known
    rcases known with rfl | rfl | rfl | rfl | rfl | rfl | rfl | rfl | rfl | rfl <;> simp [ofFields?] at none
  · intro other
    simp only [types, List.mem_cons, List.not_mem_nil, or_false, not_or] at other
    simp [ofFields?, other]

/-- A line without its line feed that asks for nothing. -/
inductive Unusable (line : List UInt8) : Prop
  /-- It is not valid UTF-8. -/
  | undecodable (noText : Text.ofUtf8? line = none)
  /-- Its text is no value, or one that cannot be held. -/
  | noValue {text : String} {e : Json.ReadError} (decoded : Text.ofUtf8? line = some text)
      (failed : Json.read (Text.strip text.toList) = .error e)
  | noObject {text : String} {v : Json} (decoded : Text.ofUtf8? line = some text)
      (read : Json.read (Text.strip text.toList) = .ok v) (shape : ∀ fields, v ≠ .obj fields)
  /-- No field `type` of the object holds a text. -/
  | noType {text : String} {fields : List (Text × Json)} (decoded : Text.ofUtf8? line = some text)
      (read : Json.read (Text.strip text.toList) = .ok (.obj fields))
      (untyped : ∀ type, Json.lookup "type" fields ≠ some (.str type))
  | noRequest {text : String} {type : Text} {fields : List (Text × Json)} (decoded : Text.ofUtf8? line = some text)
      (read : Json.read (Text.strip text.toList) = .ok (.obj fields))
      (typed : Json.lookup "type" fields = some (.str type)) (other : type ∉ Request.types)

/-- The request that a line holds. -/
def Incoming.request? : Incoming → Option Request
  | .message type fields => Request.ofFields? type fields
  | .untyped | .malformed _ | .unreadable _ => none

/-- The lines that ask for nothing are exactly those without a request. -/
theorem unusable_iff {line : List UInt8} : Unusable line ↔ (Incoming.ofLine line).request? = none := by
  unfold Incoming.ofLine
  constructor
  · intro unusable
    cases unusable with
    | undecodable noText => simp only [noText, Incoming.request?]
    | @noValue _ e decoded failed =>
      simp only [decoded, failed]
      cases e <;> rfl
    | @noObject _ v decoded read shape =>
      simp only [decoded, read]
      cases v with
      | obj fields => exact absurd rfl (shape fields)
      | null | bool | int | float | str | arr => rfl
    | @noType _ fields decoded read untyped =>
      simp only [decoded, read]
      cases found : Json.lookup "type" fields with
      | none => rfl
      | some v =>
        cases v with
        | str type => exact absurd found (untyped type)
        | null | bool | int | float | arr | obj => rfl
    | noRequest decoded read typed other =>
      simp only [decoded, read, typed, Incoming.request?, Request.ofFields?_eq_none_iff.2 other]
  · intro noRequest
    cases decoded : Text.ofUtf8? line with
    | none => exact .undecodable decoded
    | some text =>
      simp only [decoded] at noRequest
      cases read : Json.read (Text.strip text.toList) with
      | error e => exact .noValue decoded read
      | ok v =>
        cases v with
        | null | bool | int | float | str | arr => exact .noObject decoded read (by simp)
        | obj fields =>
          simp only [read] at noRequest
          cases found : Json.lookup "type" fields with
          | none => exact .noType decoded read (by simp [found])
          | some v =>
            cases v with
            | null | bool | int | float | arr | obj => exact .noType decoded read (by simp [found])
            | str type =>
              simp only [found, Incoming.request?, Request.ofFields?_eq_none_iff] at noRequest
              exact .noRequest decoded read found noRequest

/-- Bytes that are no complete line have no line feed, and are not too many. -/
theorem nextLine_unfinished {limit : Nat} {waiting : List UInt8} (cut : nextLine limit waiting = .unfinished) :
    lineFeed ∉ waiting ∧ waiting.length ≤ limit := by
  unfold nextLine at cut
  simp only at cut
  cases behind : waiting.dropWhile (· != lineFeed) with
  | nil =>
    have all : waiting.takeWhile (· != lineFeed) = waiting := by
      have parts := List.takeWhile_append_dropWhile (p := (· != lineFeed)) (l := waiting)
      rwa [behind, List.append_nil] at parts
    have inside := List.all_takeWhile (l := waiting) (p := (· != lineFeed))
    rw [all] at inside
    simp only [behind, all] at cut
    refine ⟨fun feed => by simpa using List.all_eq_true.1 inside lineFeed feed, Nat.not_lt.1 fun large => ?_⟩
    rw [if_pos large] at cut
    cases cut
  | cons feed rest =>
    simp only [behind] at cut
    split at cut <;> cases cut

namespace Server

variable {s s' start : Server} {events events' : List ServerEvent} {connection : String} {client : Connection}
  {now : Instant}

/-! ## One line -/

/-- What can be seen besides the log. -/
def shown (events : List ServerEvent) : List ServerEvent :=
  events.filter fun
    | .logged _ => false
    | _ => true

/-- Nothing is shown but at most one reply, an error for one connection. -/
def Complains (connection : String) (events : List ServerEvent) : Prop :=
  shown events = [] ∨ ∃ message, shown events = [.sent connection (.error message Envelope.plainErrorCode)]

theorem complains_sendTo (clients : Table String Connection) (connection message : String) (line : LogLine) :
    Complains connection
      (.logged line :: (sendTo clients connection (.error message Envelope.plainErrorCode)).2) := by
  unfold sendTo
  split
  · exact .inl rfl
  · split
    · exact .inl rfl
    · exact .inr ⟨message, rfl⟩

/-- A line without a request changes nothing, and is at most complained about. -/
theorem handleLine_unusable {line : List UInt8} (unusable : Unusable line) (s : Server) (now : Instant)
    (connection : String) :
    ∃ complaint, Complains connection complaint ∧ s.handleLine now connection line = (s, complaint) := by
  have noRequest := unusable_iff.1 unusable
  unfold handleLine
  cases held : Incoming.ofLine line with
  | malformed => exact ⟨_, complains_sendTo .., rfl⟩
  | unreadable => exact ⟨_, .inl rfl, rfl⟩
  | untyped => exact ⟨_, .inl rfl, rfl⟩
  | message type fields =>
    rw [held] at noRequest
    simp only [show Request.ofFields? type fields = none from noRequest]
    exact ⟨_, .inl rfl, rfl⟩

/-- When nothing is left to drain, nothing waits. -/
theorem drain_nil (isOpen : s.clients.find? connection = some client) (now : Instant) :
    s.drain now connection [] =
      ({ s with clients := s.clients.insert connection { client with waiting := [] } }, []) :=
  drain_unfinished isOpen (by simp [nextLine])

/-- A complete line on a connection on which nothing waits is handled, and again nothing waits. -/
theorem receive_line (isOpen : s.clients.find? connection = some client) (idle : client.waiting = [])
    {line : List UInt8} (whole : lineFeed ∉ line) (small : line.length ≤ s.limit) :
    s.receive now connection (line ++ [lineFeed]) = s.handleLine now connection line := by
  have cut : nextLine s.limit (client.waiting ++ (line ++ [lineFeed])) = .line line [] := by
    simpa [idle] using nextLine_feed (fun byte member feed => whole (feed ▸ member)) small []
  have still : (s.handleLine now connection line).1.clients.find? connection = some client := by
    rw [clients_handleLine, isOpen]
  have nothing : ({ client with waiting := [] } : Connection) = client := by rw [← idle]
  rw [receive_of_open isOpen, drain_line cut]
  simp only [drain_nil still, nothing, Table.insert_of_find? still, List.append_nil]

/-! ## Lines between lines -/

/-- No line has begun on a connection. -/
def clear (s : Server) (connection : String) : Bool := (s.clients.find? connection).all (·.waiting.isEmpty)

/-- The second bytes are the first ones with a number of unusable lines between the complete lines. Lines can be
put in where no line has begun, which is so at first if `clear` holds, and again behind every line feed. -/
inductive Strewn (limit : Nat) : (clear : Bool) → Nat → List UInt8 → List UInt8 → Prop
  | nothing (clear : Bool) : Strewn limit clear 0 [] []
  | byte {clear : Bool} {n : Nat} {rest rest' : List UInt8} (b : UInt8)
      (more : Strewn limit (b == lineFeed) n rest rest') : Strewn limit clear n (b :: rest) (b :: rest')
  | line {clear : Bool} {n : Nat} {rest rest' line : List UInt8} (between : clear = true) (unusable : Unusable line)
      (whole : lineFeed ∉ line) (small : line.length ≤ limit) (more : Strewn limit true n rest rest') :
      Strewn limit clear (n + 1) rest (line ++ lineFeed :: rest')

/-- The second events are the first ones and one complaint to each of some connections, in their order. -/
inductive Amid : List String → List ServerEvent → List ServerEvent → Prop
  | nothing : Amid [] [] []
  | event {senders : List String} {events events' : List ServerEvent} (e : ServerEvent)
      (more : Amid senders events events') : Amid senders (e :: events) (e :: events')
  | complaint {sender : String} {senders : List String} {complaint events events' : List ServerEvent}
      (complains : Complains sender complaint) (more : Amid senders events events') :
      Amid (sender :: senders) events (complaint ++ events')

theorem Amid.append {senders senders' : List String} {seen seen' : List ServerEvent}
    (first : Amid senders events events') (second : Amid senders' seen seen') :
    Amid (senders ++ senders') (events ++ seen) (events' ++ seen') := by
  induction first with
  | nothing => exact second
  | event e _ ih => exact .event e ih
  | complaint complains _ ih =>
    rw [List.append_assoc]
    exact .complaint complains ih

theorem Amid.refl (events : List ServerEvent) : Amid [] events events := by
  induction events with
  | nil => exact .nothing
  | cons e rest ih => exact .event e ih

/-- The log is not received. -/
theorem received_shown (connection : String) (events : List ServerEvent) :
    received connection (shown events) = received connection events := by
  induction events with
  | nil => rfl
  | cons e rest ih =>
    cases e with
    | sent c r =>
      show received connection (.sent c r :: shown rest) = _
      rw [received_sent, received_sent, ih]
    | logged line => exact ih
    | fetched address => exact ih

/-- A complaint is received by nobody else. -/
theorem Complains.received {sender : String} (complains : Complains sender events) (other : connection ≠ sender) :
    received connection events = [] := by
  rw [← received_shown]
  rcases complains with nothing | ⟨message, one⟩
  · rw [nothing]
    rfl
  · rw [one, received_sent, if_neg other.symm]
    rfl

theorem Amid.received {senders : List String} (amid : Amid senders events events') (other : connection ∉ senders) :
    received connection events' = received connection events := by
  induction amid with
  | nothing => rfl
  | event e _ ih =>
    have first (seen : List ServerEvent) :
        Server.received connection (e :: seen) = Server.received connection [e] ++ Server.received connection seen :=
      received_append [e] seen
    rw [first, ih other, ← first]
  | complaint complains _ ih =>
    obtain ⟨here, later⟩ := not_or.1 (mt List.mem_cons.2 other)
    rw [received_append, complains.received here, ih later, List.nil_append]

theorem Move.limit {messages : List Message} (move : Move s messages events s') : s'.limit = s.limit := by
  cases move <;> rfl

theorem Path.limit {messages : List Message} (path : Path start messages events s) : s.limit = start.limit := by
  induction path with
  | nothing => rfl
  | move _ last ih => rw [last.limit, ih]

theorem limit_receive (s : Server) (now : Instant) (connection : String) (bytes : List UInt8) :
    (s.receive now connection bytes).1.limit = s.limit := by
  rw [← occur_bytes]
  exact (path_meet s now (.occur connection (.bytes bytes))).limit

theorem Unfinished.receive (unfinished : Unfinished s) (now : Instant) (connection : String) (bytes : List UInt8) :
    Unfinished (s.receive now connection bytes).1 := by
  rw [← occur_bytes]
  exact unfinished.meet now (.occur connection (.bytes bytes))

/-- When a line feed has arrived, no line has begun. -/
theorem clear_receive_feed (unfinished : Unfinished s) (now : Instant) (connection : String) :
    (s.receive now connection [lineFeed]).1.clear connection = true := by
  cases found : s.clients.find? connection with
  | none => simp [receive_of_closed found, clear, found]
  | some client =>
    obtain ⟨whole, small⟩ := nextLine_unfinished (unfinished connection client found)
    have cut : nextLine s.limit (client.waiting ++ [lineFeed]) = .line client.waiting [] := by
      simpa using nextLine_feed (fun byte member feed => whole (feed ▸ member)) small []
    have still : (s.handleLine now connection client.waiting).1.clients.find? connection = some client := by
      rw [clients_handleLine, found]
    rw [receive_of_open found, drain_line cut]
    simp [drain_nil still, clear, Table.find?_insert]

/-- No bytes make no difference. -/
theorem receive_nil (unfinished : Unfinished s) (now : Instant) (connection : String) :
    s.receive now connection [] = (s, []) := by
  cases found : s.clients.find? connection with
  | none => exact receive_of_closed found []
  | some client =>
    rw [receive_of_open found, List.append_nil, drain_unfinished found (unfinished connection client found),
      Table.insert_of_find? found]

/-- A line that asks for nothing, where no line has begun. -/
theorem receive_unusable (idle : s.clear connection = true) {line : List UInt8} (unusable : Unusable line)
    (whole : lineFeed ∉ line) (small : line.length ≤ s.limit) (now : Instant) :
    ∃ complaint, Complains connection complaint ∧
      s.receive now connection (line ++ [lineFeed]) = (s, complaint) := by
  cases found : s.clients.find? connection with
  | none => exact ⟨[], .inl rfl, receive_of_closed found _⟩
  | some client =>
    have nothing : client.waiting = [] := by simpa [clear, found] using idle
    rw [receive_line found nothing whole small]
    exact handleLine_unusable unusable s now connection

/-- Bytes with unusable lines among them do the same as without, and are complained about. -/
theorem receive_strewn {n : Nat} {idle : Bool} {content content' : List UInt8}
    (strewn : Strewn s.limit idle n content content') (unfinished : Unfinished s)
    (begins : idle = true → s.clear connection = true) (now : Instant) :
    ∃ seen, s.receive now connection content' = ((s.receive now connection content).1, seen) ∧
      Amid (List.replicate n connection) (s.receive now connection content).2 seen := by
  generalize fixed : s.limit = limit at strewn
  induction strewn generalizing s with
  | nothing idle => exact ⟨_, rfl, .refl _⟩
  | @byte idle n rest rest' b _ ih =>
    have begins' : (b == lineFeed) = true → (s.receive now connection [b]).1.clear connection = true := by
      intro feed
      rw [beq_iff_eq] at feed
      subst feed
      exact clear_receive_feed unfinished now connection
    obtain ⟨seen, same, amid⟩ := ih (unfinished.receive now connection [b]) begins'
      ((limit_receive s now connection [b]).trans fixed)
    refine ⟨(s.receive now connection [b]).2 ++ seen, ?_, ?_⟩
    · rw [← List.singleton_append, receive_append, ← List.singleton_append (l := rest), receive_append]
      simp only [same]
    · rw [← List.singleton_append (l := rest), receive_append]
      exact (Amid.refl _).append amid
  | line between unusable whole small _ ih =>
    have idle := begins between
    obtain ⟨complaint, complains, inert⟩ := receive_unusable idle unusable whole (fixed ▸ small) now
    obtain ⟨seen, same, amid⟩ := ih unfinished (fun _ => idle) fixed
    refine ⟨complaint ++ seen, ?_, ?_⟩
    · rw [List.append_cons, receive_append, inert]
      simp only [same]
    · exact .complaint complains amid

/-! ## Two runs -/

/-- Two runs of one server side by side, each with what could be seen. The same happens in both at the same
times, but in the second one unusable lines arrive between the complete lines of connections, as many and as
often as one likes; for each of them the list has its connection. -/
inductive Padded (start : Server) : List String → List ServerEvent → Server → List ServerEvent → Server → Prop
  | nothing : Padded start [] [] start [] start
  | both {senders : List String} {events events' : List ServerEvent} {s s' : Server}
      (earlier : Padded start senders events s events' s') (now : Instant) (incident : Incident) :
      Padded start senders (events ++ (s.meet now incident).2) (s.meet now incident).1
        (events' ++ (s'.meet now incident).2) (s'.meet now incident).1
  /-- Bytes arrive in both runs, and unusable lines among them in the second one. -/
  | among {senders : List String} {events events' : List ServerEvent} {s s' : Server}
      (earlier : Padded start senders events s events' s') (now : Instant) (connection : String) {n : Nat}
      {content content' : List UInt8} (strewn : Strewn s.limit (s.clear connection) n content content') :
      Padded start (senders ++ List.replicate n connection)
        (events ++ (s.meet now (.occur connection (.bytes content))).2)
        (s.meet now (.occur connection (.bytes content))).1
        (events' ++ (s'.meet now (.occur connection (.bytes content'))).2)
        (s'.meet now (.occur connection (.bytes content'))).1
  /-- Unusable lines arrive in the second run alone. -/
  | alone {senders : List String} {events events' : List ServerEvent} {s s' : Server}
      (earlier : Padded start senders events s events' s') (now : Instant) (connection : String) {n : Nat}
      {content : List UInt8} (strewn : Strewn s.limit (s.clear connection) n [] content) :
      Padded start (senders ++ List.replicate n connection) events s
        (events' ++ (s'.meet now (.occur connection (.bytes content))).2)
        (s'.meet now (.occur connection (.bytes content))).1

theorem Padded.run {senders : List String} (padded : Padded start senders events s events' s') :
    ∃ messages, Run start messages events s := by
  induction padded with
  | nothing => exact ⟨_, .nothing⟩
  | both _ now incident ih =>
    obtain ⟨_, run⟩ := ih
    exact ⟨_, run.step now incident⟩
  | among _ now connection _ ih =>
    obtain ⟨_, run⟩ := ih
    exact ⟨_, run.step now _⟩
  | alone _ _ _ _ ih => exact ih

theorem Padded.same {hub : Hub} {limit : Nat} {senders : List String}
    (padded : Padded (create hub limit) senders events s events' s') : s' = s ∧ Amid senders events events' := by
  induction padded with
  | nothing => exact ⟨rfl, .nothing⟩
  | @both senders _ _ _ s _ now incident ih =>
    obtain ⟨rfl, amid⟩ := ih
    have together := amid.append (Amid.refl (s.meet now incident).2)
    exact ⟨rfl, by rwa [List.append_nil] at together⟩
  | @among _ _ _ s _ earlier now connection n content content' strewn ih =>
    obtain ⟨rfl, amid⟩ := ih
    obtain ⟨_, run⟩ := earlier.run
    obtain ⟨seen, same, more⟩ := receive_strewn strewn run.unfinished id now
    simp only [meet, occur_bytes, same]
    exact ⟨trivial, amid.append more⟩
  | @alone _ events _ s _ earlier now connection n content strewn ih =>
    obtain ⟨rfl, amid⟩ := ih
    obtain ⟨_, run⟩ := earlier.run
    obtain ⟨seen, same, more⟩ := receive_strewn strewn run.unfinished id now
    rw [receive_nil run.unfinished] at same more
    simp only [meet, occur_bytes, same]
    exact ⟨trivial, by simpa using amid.append more⟩

/-- Unusable lines are inert. A line that asks for nothing, complete and within the limit, on an open connection
on which nothing waits leaves the server as it was, with its store, its sessions and its connections; at most
one reply is sent, an error to that connection. So take two runs of a server that differ in such lines, put in
between the complete lines of any connections. At every moment the servers are the same, and the second run
shows what the first one shows, in the same order, and one such complaint for each line that was put in;
connections on which none was put in receive exactly the same. -/
theorem unusable_lines_are_inert {hub : Hub} {limit : Nat} :
    (∀ {s : Server} {connection : String} {client : Connection} {line : List UInt8} (now : Instant),
      s.clients.find? connection = some client → client.waiting = [] → Unusable line → lineFeed ∉ line →
      line.length ≤ s.limit →
      ∃ complaint, Complains connection complaint ∧
        s.occur now connection (.bytes (line ++ [lineFeed])) = (s, complaint)) ∧
    ∀ {senders : List String} {events events' : List ServerEvent} {s s' : Server},
      Padded (create hub limit) senders events s events' s' →
      s' = s ∧ Amid senders events events' ∧ ∀ c, c ∉ senders → received c events' = received c events := by
  constructor
  · intro s connection client line now isOpen idle unusable whole small
    rw [occur_bytes, receive_line isOpen idle whole small]
    exact handleLine_unusable unusable s now connection
  · intro senders events events' s s' padded
    obtain ⟨same, amid⟩ := padded.same
    exact ⟨same, amid, fun c other => amid.received other⟩

/-- The same bytes, with no line put in. -/
theorem Strewn.refl (limit : Nat) (clear : Bool) (content : List UInt8) : Strewn limit clear 0 content content := by
  induction content generalizing clear with
  | nil => exact .nothing clear
  | cons b rest ih => exact .byte b (ih _)

/-- A list, and an object of a type that no request has. -/
private def babble : List UInt8 × List UInt8 :=
  ("[1, 2]".toUTF8.toList, "\x7b\"type\": \"dance\"\x7d".toUTF8.toList)

/-- Two clients connect, and the first one shows a sign of life. In the second run it has sent a byte that is no
text, and sends a list and an object of an unknown type in front of its request. -/
theorem unusable_lines_are_inert_of_babble :
    let start := create (.create (.empty .plain 5 5) (.empty 60 Instant.uptime) ⟨[], []⟩ .default) 100
    let first := (Id.ofNumber 1).text
    let second := (Id.ofNumber 2).text
    ∃ events s events' s', Padded start [first, first, first] events s events' s' ∧ s' = s ∧
      received first events = [.history [], .heartbeatAck ⟨4⟩] ∧
      received first events' = [.history [], .error "Malformed JSON" "error", .heartbeatAck ⟨4⟩] ∧
      received second events' = received second events ∧
      ∃ complaint, Complains second complaint ∧
        s.occur ⟨5⟩ second (.bytes (babble.2 ++ [lineFeed])) = (s, complaint) := by
  intro start first second
  have connected : Padded start _ _ _ _ _ := Padded.nothing.both ⟨1⟩ (.accept "here" false)
  have joined := connected.both ⟨2⟩ (.accept "there" false)
  have noText {limit : Nat} {clear : Bool} (between : clear = true) (small : 1 ≤ limit) :
      Strewn limit clear 1 [] ([255] ++ [lineFeed]) :=
    .line between (.undecodable (by decide +kernel)) (by decide) small (.nothing true)
  have garbled := joined.alone ⟨3⟩ first (noText (by decide +kernel) (by decide +kernel))
  have noRequests {limit : Nat} {clear : Bool} (between : clear = true) (small : 17 ≤ limit) :
      Strewn limit clear 2 Request.heartbeat.line
        (babble.1 ++ lineFeed :: (babble.2 ++ lineFeed :: Request.heartbeat.line)) :=
    .line between (unusable_iff.2 (by decide +kernel)) (by decide +kernel) (Nat.le_trans (by decide +kernel) small)
      (.line rfl (unusable_iff.2 (by decide +kernel)) (by decide +kernel) (Nat.le_trans (by decide +kernel) small)
        (.refl ..))
  have answered := garbled.among ⟨4⟩ first (noRequests (by decide +kernel) (by decide +kernel))
  obtain ⟨inert, padded⟩ :=
    @unusable_lines_are_inert (.create (.empty .plain 5 5) (.empty 60 Instant.uptime) ⟨[], []⟩ .default) 100
  obtain ⟨same, -, others⟩ := padded answered
  refine ⟨_, _, _, _, answered, same, by decide +kernel, by decide +kernel, others second (by decide +kernel), ?_⟩
  exact inert ⟨5⟩ (show _ = some (⟨[], false, false⟩ : Connection) by decide +kernel) rfl
    (unusable_iff.2 (by decide +kernel)) (by decide +kernel) (by decide +kernel)

end Server

end ChatService
