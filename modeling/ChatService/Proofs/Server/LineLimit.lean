import ChatService.Proofs.Server.Unusable

/-!
# How long a line can be

A line is measured without its line feed, and it is refused when it has more bytes than the limit of the
reader. A server that is set up for lines of a number of bytes reads with a limit of one byte more, as if the
line feed were counted, so a line with just one byte too many is still a request. A longer one ends its
connection, and nothing of it or behind it is handled.
-/

namespace ChatService

/-- A line with too many bytes is refused, whatever arrives behind it. -/
theorem nextLine_feed_oversized {content : List UInt8} (whole : lineFeed ∉ content) {limit : Nat}
    (large : limit < content.length) (behind : List UInt8) :
    nextLine limit (content ++ lineFeed :: behind) = .oversized := by
  have inside : ∀ byte ∈ content, (byte != lineFeed) = true := fun byte member => by
    simpa using ne_of_mem_of_not_mem member whole
  obtain ⟨taken, dropped⟩ := Text.span_append (lineFeed :: behind) inside (by simp)
  rw [nextLine, taken, dropped]
  simp only [if_pos large]

namespace Server

variable {s : Server} {now : Instant} {connection : String} {client : Connection}

/-- Bytes in pieces are drained at once. -/
theorem Unfinished.receiveAll (unfinished : Unfinished s) (now : Instant) (connection : String)
    (pieces : List (List UInt8)) :
    s.receiveAll now connection pieces = s.receive now connection pieces.flatten := by
  cases pieces with
  | nil => rw [Server.receiveAll, List.flatten_nil, receive_nil unfinished]
  | cons piece pieces => rw [receiveAll_cons, List.flatten_cons]

/-! ## A line within the limit -/

/-- A line within the limit is handled, and then what arrived behind it. -/
theorem drain_small (isOpen : s.clients.find? connection = some client) {line : List UInt8} (whole : lineFeed ∉ line)
    (small : line.length ≤ s.limit) (later : List UInt8) :
    s.drain now connection (line ++ lineFeed :: later) =
      let handled := s.handleLine now connection line
      let rest := (handled.1.holding connection client []).receive now connection later
      (rest.1, handled.2 ++ rest.2) := by
  have cut : nextLine s.limit (line ++ lineFeed :: later) = .line line later := by
    simpa using nextLine_feed (fun byte member feed => whole (feed ▸ member)) small later
  have still : (s.handleLine now connection line).1.clients.find? connection = some client := by
    rw [clients_handleLine, isOpen]
  rw [drain_line cut]
  simp only [receive_of_open (find?_holding _ connection client []), List.nil_append, drain_holding still]

/-! ## A line that is too large -/

/-- A connection that is closed receives nothing more. -/
theorem received_close (s : Server) (now : Instant) (connection : String) :
    received connection (s.close now connection).2 = [] := by
  obtain ⟨notes, closed⟩ := close_eq s now connection
  have gone : works (s.clients.erase connection) connection = false := by simp [works, Table.find?_erase]
  have silent : received connection (notes.map .logged) = [] := by simp [received, List.filterMap_map]
  rw [closed, received_append, received_performAll, gone, silent]
  rfl

/-- A connection with a line that is too large receives one error. -/
theorem received_refuseLine (s : Server) (now : Instant) (connection : String) :
    received connection (s.refuseLine now connection).2 =
      if works s.clients connection then [.error "Message too large" Envelope.plainErrorCode] else [] := by
  simp only [refuseLine, refusal, List.cons_append, received_logged, received_append, received_sendTo, received_close,
    List.append_nil, true_and]

/-- A line that is too large ends its connection, and the hub only ends the session. -/
theorem fst_refuseLine (s : Server) (now : Instant) (connection : String) :
    (s.refuseLine now connection).1 =
      { s with
        hub := (s.hub.perform ⟨now, connection, .disconnect⟩).hub
        clients := s.clients.erase connection } := by
  obtain ⟨notes, closed⟩ := close_eq s now connection
  simp only [refuseLine, closed]

variable {messages : List Message} {events : List ServerEvent}

/-- The limit of lines is one byte more than the size that a server is set up for. In every server that a run
reaches, when a line is complete on an open connection, however its bytes arrived: with at most one byte more than
the size it is handled, and then what arrived behind it, with nothing waiting. With more, one error is written to
the connection, which ends; the hub does nothing but end its session, so nothing of the line or behind it is
handled, and whatever happens to the connection later has no effect. -/
theorem lines_end_above_limit {hub : Hub} {size : Nat} (run : Run (create hub (limitFor size)) messages events s)
    (isOpen : s.clients.find? connection = some client) (now : Instant) {pieces : List (List UInt8)}
    {line later : List UInt8} (arrived : client.waiting ++ pieces.flatten = line ++ lineFeed :: later)
    (whole : lineFeed ∉ line) :
    (line.length ≤ size + 1 →
      let handled := s.handleLine now connection line
      let rest := (handled.1.holding connection client []).receive now connection later
      s.receiveAll now connection pieces = (rest.1, handled.2 ++ rest.2)) ∧
    (size + 1 < line.length →
      let ended := s.receiveAll now connection pieces
      ended.1 =
        { s with
          hub := (s.hub.perform ⟨now, connection, .disconnect⟩).hub
          clients := s.clients.erase connection } ∧
      (client.broken = false →
        received connection ended.2 = [.error "Message too large" Envelope.plainErrorCode]) ∧
      ∀ moment o, ended.1.occur moment connection o = (ended.1, [])) := by
  have limit : s.limit = size + 1 := run.path.limit
  have drained : s.receiveAll now connection pieces = s.drain now connection (line ++ lineFeed :: later) := by
    rw [run.unfinished.receiveAll, receive_of_open isOpen, arrived]
  rw [drained]
  refine ⟨fun small => drain_small isOpen whole (limit ▸ small) later, fun large => ?_⟩
  rw [drain_oversized (nextLine_feed_oversized whole (limit ▸ large) later)]
  refine ⟨fst_refuseLine s now connection, fun intact => ?_, fun moment o => ?_⟩
  · rw [received_refuseLine, if_pos (by simp [works, isOpen, intact])]
  · simp only [occur, find?_refuseLine]

/-- A sign of life in twenty bytes. -/
private def beat : List UInt8 := "\x7b\"type\":\"heartbeat\"\x7d".toUTF8.toList

/-- A server for lines of nineteen bytes, with one connection. -/
private def narrow : Server :=
  (create (.create (.empty .plain 5 5) (.empty 60 Instant.uptime) ⟨[], []⟩ .default) (limitFor 19)).advance
    [(⟨1⟩, .accept "here" false)]

/-- The line is answered in pieces; with a space in front it is refused, and the same line behind it is lost. -/
theorem lines_end_above_limit_of_space :
    let first := (Id.ofNumber 1).text
    received first (narrow.receiveAll ⟨2⟩ first [beat.take 7, beat.drop 7 ++ [lineFeed]]).2 = [.heartbeatAck ⟨2⟩] ∧
      received first (narrow.receiveAll ⟨2⟩ first [32 :: beat, lineFeed :: beat ++ [lineFeed]]).2 =
        [.error "Message too large" Envelope.plainErrorCode] := by
  intro first
  obtain ⟨messages, events, run⟩ :=
    exists_run (create (.create (.empty .plain 5 5) (.empty 60 Instant.uptime) ⟨[], []⟩ .default) (limitFor 19))
      [(⟨1⟩, .accept "here" false)]
  have isOpen : narrow.clients.find? first = some ⟨[], false, false⟩ := by decide +kernel
  have short : [] ++ [beat.take 7, beat.drop 7 ++ [lineFeed]].flatten = beat ++ lineFeed :: [] := by decide +kernel
  have long : [] ++ [32 :: beat, lineFeed :: beat ++ [lineFeed]].flatten =
      (32 :: beat) ++ lineFeed :: (beat ++ [lineFeed]) := by decide +kernel
  obtain ⟨handled, -⟩ := lines_end_above_limit run isOpen ⟨2⟩ short (by decide +kernel)
  obtain ⟨-, refused⟩ := lines_end_above_limit run isOpen ⟨2⟩ long (by decide +kernel)
  obtain ⟨-, answered, -⟩ := refused (by decide +kernel)
  refine ⟨?_, answered rfl⟩
  have same := handled (by decide +kernel)
  calc received first (narrow.receiveAll ⟨2⟩ first [beat.take 7, beat.drop 7 ++ [lineFeed]]).2
    _ = received first ((narrow.handleLine ⟨2⟩ first beat).2 ++
          (((narrow.handleLine ⟨2⟩ first beat).1.holding first ⟨[], false, false⟩ []).receive ⟨2⟩ first []).2) :=
      congrArg (fun r => received first r.2) same
    _ = [.heartbeatAck ⟨2⟩] := by decide +kernel

/-- A line with one byte more than the size is answered, and its connection goes on. -/
theorem large_line_handled :
    let first := (Id.ofNumber 1).text
    let after := narrow.occur ⟨2⟩ first (.bytes (beat ++ [lineFeed]))
    beat.length = 20 ∧ lineFeed ∉ beat ∧ received first after.2 = [.heartbeatAck ⟨2⟩] ∧
      after.1.clients.find? first = some ⟨[], false, false⟩ := by
  decide +kernel

end Server

end ChatService
