import ChatService.Client.Display
import ChatService.Client.Input
import ChatService.Json.Printer
import ChatService.Json.Reader
import ChatService.Text.Utf8

/-!
# The client's session

Connecting with retries, listening with reconnection, and typing. What the outside world
does is part of the state: `attempts` is what the next connection attempts meet, and
`arriving` what still arrives on the current connection. Everything that can be seen from
outside is recorded.

A lost connection is replaced by a new one in at most five rounds with growing delays;
the login does not survive.
-/

namespace ChatService.Client

/-- A delay in seconds, a whole number or a double. -/
inductive Delay
  | whole (seconds : Int)
  | double (seconds : Float)

/-- Why a delay times a power of two cannot be had. -/
inductive DelayFault
  /-- The power of two is beyond every double. -/
  | overflow
  /-- The delay is a whole number with too many digits to be shown. -/
  | oversized
  /-- The delay is a whole number that is shown, but lies beyond every double and so cannot be waited for. -/
  | endless
deriving DecidableEq, Repr

namespace Delay

/-- The exponent of the least power of two that is beyond every double. -/
def overflowExponent : Nat := 1024

/-- The least whole number with too many digits to be shown. -/
def unshowable : Nat := Nat.pow 10 Numeral.longestWhole

/-- What keeps the delay times a power of two from being had. A delay that is not positive is over at once. -/
def fault? (d : Delay) (times : Nat) : Option DelayFault :=
  match d with
  | whole n =>
    let size := n.natAbs <<< times
    if unshowable ≤ size then some .oversized
    else if 0 < n ∧ !Binary64.isFinite (Binary64.nearest false size 1) then some .endless
    else none
  | double _ => if overflowExponent ≤ times then some .overflow else none

/-- The delay times a power of two. -/
def doubled (d : Delay) (times : Nat) : Delay :=
  match d with
  | whole n => whole (n * (1 <<< times : Nat))
  | double x => double (x * Binary64.nearest false (1 <<< times) 1)

def text : Delay → String
  | whole n => String.ofList (Json.writeInt n)
  | double x => String.ofList (Binary64.short x)

end Delay

/-- Something that reading from a connection meets. -/
inductive Arrival
  /-- A line, as bytes. -/
  | line (bytes : List UInt8)
  | reset
  | cancel
deriving DecidableEq, Repr

inductive Attempt
  | refused (reason : String)
  /-- A connection, what arrives on it, and whether writing to it fails. -/
  | accepted (arrivals : List Arrival) (broken : Bool)
deriving DecidableEq, Repr

/-- A connection that the client has or had: whether writing fails, and the lines written. -/
structure Channel where
  broken : Bool
  sent : List String
deriving DecidableEq, Repr

/-- The client with its surroundings and everything that was seen of it. -/
structure Session where
  host : String
  tcpPort : Int
  /-- What the next attempts to connect meet. -/
  attempts : List Attempt
  /-- What still arrives on the current connection. -/
  arriving : List Arrival
  channel : Option Channel
  /-- The connections before the current one, oldest first. -/
  past : List Channel
  running : Bool
  /-- The name that the client is logged in under, or null. -/
  username : Json
  /-- What was printed, oldest first. -/
  out : List String
  /-- The delays, as text. -/
  sleeps : List String
  /-- How many times a connection was asked for. -/
  asked : Nat

namespace Session

def start (host : String) (tcpPort : Int) (attempts : List Attempt) : Session :=
  { host, tcpPort, attempts, arriving := [], channel := none, past := [], running := false
    username := .null, out := [], sleeps := [], asked := 0 }

def print (s : Session) (text : String) : Session := { s with out := s.out ++ [text] }

def log (s : Session) (line : LogLine) : Session := s.print (logged line)

def sleep (s : Session) (delay : String) : Session := { s with sleeps := s.sleeps ++ [delay] }

/-- All connections, oldest first. -/
def channels (s : Session) : List Channel := s.past ++ s.channel.toList

def address (s : Session) : String := s.host ++ ":" ++ String.ofList (Json.writeInt s.tcpPort)

/-! ## Connecting -/

/-- One attempt to connect: the reason why it failed, or none. -/
def attempt (s : Session) : Option String × Session :=
  let s := { s with asked := s.asked + 1 }
  match s.attempts with
  | [] => (some "refused", s)
  | .refused reason :: rest => (some reason, { s with attempts := rest })
  | .accepted arrivals broken :: rest =>
    (none, { s with attempts := rest, arriving := arrivals, past := s.channels, channel := some ⟨broken, []⟩ })

/-- What a successful attempt changes. -/
def connected (s : Session) : Session :=
  { s.log (.info ("Connected to " ++ s.address)) with running := true }

/-- What a failed attempt reports. -/
def refusedConnection (s : Session) (reason : String) : Session :=
  (s.log (.info ("Failed to connect to " ++ s.address))).log (.error ("Error in connection: " ++ reason))

/-- Says what is waited for after a number of failures, out of `total` attempts. -/
def announceRetry (s : Session) (total : Nat) (delay : Delay) (failures : Nat) : Session :=
  s.log (.info ("[INFO] Retrying connection in " ++ delay.text ++ "s (attempt " ++
    toString failures ++ "/" ++ toString total ++ ")..."))

def awaitRetry (s : Session) (total : Nat) (delay : Delay) (failures : Nat) : Session :=
  (s.announceRetry total delay failures).sleep delay.text

/-- What a delay that cannot be had leaves behind: one that can be shown was announced. -/
def breakOff (s : Session) (total : Nat) (delay : Delay) (failures : Nat) : DelayFault → Session
  | .endless => s.announceRetry total delay failures
  | .overflow | .oversized => s

/-- Up to `left` attempts after `failures` failed ones, out of `total`. After each failure but the last
comes a delay, twice as long as the one before; connecting breaks off at a delay that cannot be had. -/
def connectFrom (s : Session) (total : Nat) (base : Delay) :
    (failures left : Nat) → Except DelayFault Bool × Session
  | _, 0 => (.ok false, s)
  | failures, left + 1 =>
    match s.attempt with
    | (none, s) => (.ok true, s.connected)
    | (some reason, s) =>
      let s := s.refusedConnection reason
      if left = 0 then
        (.ok false, s.log (.error ("[ERROR] Failed to connect after " ++ toString total ++ " attempts")))
      else
        let delay := base.doubled failures
        match base.fault? failures with
        | some fault => (.error fault, s.breakOff total delay (failures + 1) fault)
        | none => (s.awaitRetry total delay (failures + 1)).connectFrom total base (failures + 1) left

def connect (s : Session) (retries : Nat) (base : Delay) : Except DelayFault Bool × Session :=
  s.connectFrom retries base 0 retries

/-- How often connecting is tried unless it is told otherwise. -/
def defaultRetries : Nat := 3

/-- The first delay unless connecting is told otherwise. -/
def defaultDelay : Delay := .double 1

def reconnectRounds : Nat := 5

def awaitRound (s : Session) (round : Nat) : Session :=
  let delay := (defaultDelay.doubled round).text
  (s.log (.info ("[INFO] Attempting to reconnect in " ++ delay ++ "s (attempt " ++
    toString (round + 1) ++ "/" ++ toString reconnectRounds ++ ")..."))).sleep delay

/-- The rounds from `round` on, of which `left` are left. -/
def reconnectFrom (s : Session) : (round left : Nat) → Except DelayFault Bool × Session
  | _, 0 =>
    (.ok false, { s.log (.error "[ERROR] Failed to reconnect after multiple attempts") with running := false })
  | round, left + 1 =>
    match (s.awaitRound round).connect 1 defaultDelay with
    | (.ok true, s) => (.ok true, s.log (.info "[INFO] Reconnected successfully, log in again with :login"))
    | (.ok false, s) => s.reconnectFrom (round + 1) left
    | (.error fault, s) => (.error fault, s)

def reconnect (s : Session) : Except DelayFault Bool × Session := s.reconnectFrom 0 reconnectRounds

/-! ## Listening -/

inductive ListenFault
  /-- A line with more bytes than the reader takes. -/
  | oversized
  /-- Bytes that are no text. -/
  | undecodable
  /-- A value that cannot be held. -/
  | unreadable
  | display (fault : DisplayFault)
  | delay (fault : DelayFault)
deriving DecidableEq, Repr

inductive ListenEnd
  /-- The client stopped running, or no connection could be had. -/
  | stopped
  | cancelled
  /-- Nothing more arrives on a connection that stays open. -/
  | waiting
  | failed (fault : ListenFault)
deriving DecidableEq, Repr

/-- The most bytes of a line, not counting the line feed, that the reader takes. -/
def lineLimit : Nat := 65536

/-- Prints a message and keeps the name it logs in or out. -/
def handleMessage (s : Session) (v : Json) : Option DisplayFault × Session :=
  let lines := display v
  (fault? lines, { s.print (printed lines) with username := nameAfter s.username v })

/-- What is said of a line that holds no value. -/
def malformedLine (reason : String) : LogLine := .error ("[ERROR] Malformed JSON received: " ++ reason)

/-- Reads a line and handles it. -/
def handleLine (s : Session) (bytes : List UInt8) : Option ListenFault × Session :=
  if lineLimit < (bytes.takeWhile (· != lineFeed)).length then (some .oversized, s)
  else
    match Text.ofUtf8? bytes with
    | none => (some .undecodable, s)
    | some text =>
      match Json.read (Text.strip text.toList) with
      | .error (.malformed stop) => (none, s.log (malformedLine (stop.message (Text.strip text.toList))))
      | .error (.oversized _) => (some .unreadable, s)
      | .ok v =>
        let (fault, s) := s.handleMessage v
        (fault.map .display, s)

/-- The current connection has ended and is to be replaced. Listening goes on, until it is seen that the
client no longer runs. -/
def endOfFile (s : Session) : Option ListenEnd × Session :=
  match (s.log (.info "[INFO] Server closed connection, attempting to reconnect...")).reconnect with
  | (.ok _, s) => (none, s)
  | (.error fault, s) => (some (.failed (.delay fault)), s)

/-- The current connection has broken and is to be replaced. -/
def connectionLost (s : Session) : Option ListenEnd × Session :=
  match (s.log (.error "[ERROR] Connection lost: reset")).reconnect with
  | (.ok true, s) => (none, s)
  | (.ok false, s) => (some .stopped, s)
  | (.error fault, s) => (some (.failed (.delay fault)), s)

/-- Reads once and handles what is read: how that ends listening, if it does. With `silent`, a connection
stays open when nothing more arrives; otherwise it ends. A line without bytes is the end of a connection too. -/
def turn (silent : Bool) (s : Session) : Option ListenEnd × Session :=
  match s.arriving with
  | [] => if silent then (some .waiting, s) else s.endOfFile
  | .line bytes :: rest =>
    let s := { s with arriving := rest }
    if bytes.isEmpty then s.endOfFile
    else
      match s.handleLine bytes with
      | (some fault, s) => (some (.failed fault), s)
      | (none, s) => (none, s)
  | .reset :: rest => ({ s with arriving := rest } : Session).connectionLost
  | .cancel :: rest =>
    (some .cancelled, ({ s with arriving := rest } : Session).log (.info "[INFO] Listener cancelled"))

/-! ### What can still happen

Every connection that is replaced uses up an attempt, so listening comes to an end. -/

/-- Everything that attempts can still bring. -/
def supplyOf : List Attempt → Nat
  | [] => 0
  | .refused _ :: rest => supplyOf rest + 1
  | .accepted arrivals _ :: rest => supplyOf rest + arrivals.length + 1

/-- Everything that can still arrive or end. -/
def supply (s : Session) : Nat := s.arriving.length + supplyOf s.attempts

theorem supply_attempt (s : Session) :
    s.attempt.2.supply + (if s.attempt.1 = none then 1 else 0) ≤ s.supply := by
  obtain ⟨host, tcpPort, attempts, arriving, channel, past, running, username, out, sleeps, asked⟩ := s
  rcases attempts with - | ⟨- | ⟨arrivals, broken⟩, rest⟩
  · simp [attempt, supply]
  · simp [attempt, supply, supplyOf]
  · simp [attempt, supply, supplyOf]
    omega

@[simp] theorem supply_log (s : Session) (line : LogLine) : (s.log line).supply = s.supply := rfl

@[simp] theorem supply_print (s : Session) (text : String) : (s.print text).supply = s.supply := rfl

@[simp] theorem supply_sleep (s : Session) (delay : String) : (s.sleep delay).supply = s.supply := rfl

@[simp] theorem supply_connected (s : Session) : s.connected.supply = s.supply := rfl

@[simp] theorem supply_refusedConnection (s : Session) (reason : String) :
    (s.refusedConnection reason).supply = s.supply := rfl

@[simp] theorem supply_awaitRetry (s : Session) (total : Nat) (delay : Delay) (failures : Nat) :
    (s.awaitRetry total delay failures).supply = s.supply := rfl

@[simp] theorem supply_breakOff (s : Session) (total : Nat) (delay : Delay) (failures : Nat) (fault : DelayFault) :
    (s.breakOff total delay failures fault).supply = s.supply := by
  cases fault <;> rfl

/-- Whether connecting ended with a connection. -/
def isConnected : Except DelayFault Bool → Bool
  | .ok connected => connected
  | .error _ => false

theorem supply_connectFrom (s : Session) (total : Nat) (base : Delay) (failures left : Nat) :
    (s.connectFrom total base failures left).2.supply +
      (if isConnected (s.connectFrom total base failures left).1 then 1 else 0) ≤ s.supply := by
  induction left generalizing s failures with
  | zero => simp [connectFrom, isConnected]
  | succ left ih =>
    have step := supply_attempt s
    unfold connectFrom
    split
    · next s' found =>
      rw [found] at step
      simpa [isConnected] using step
    · next reason s' found =>
      rw [found] at step
      simp only [reduceCtorEq, if_false, Nat.add_zero] at step
      dsimp only
      split
      · simpa [isConnected] using step
      · split
        · simpa [isConnected] using step
        · exact Nat.le_trans (ih _ _) (by simpa using step)

theorem supply_connect (s : Session) (retries : Nat) (base : Delay) :
    (s.connect retries base).2.supply + (if isConnected (s.connect retries base).1 then 1 else 0) ≤ s.supply :=
  supply_connectFrom s retries base 0 retries

@[simp] theorem supply_awaitRound (s : Session) (round : Nat) : (s.awaitRound round).supply = s.supply := rfl

theorem supply_reconnectFrom (s : Session) (round left : Nat) :
    (s.reconnectFrom round left).2.supply + (if isConnected (s.reconnectFrom round left).1 then 1 else 0) ≤
      s.supply := by
  induction left generalizing s round with
  | zero => simp [reconnectFrom, supply, log, print, isConnected]
  | succ left ih =>
    have step := supply_connect (s.awaitRound round) 1 defaultDelay
    unfold reconnectFrom
    split
    · next s' found =>
      rw [found] at step
      simpa [isConnected] using step
    · next s' found =>
      rw [found] at step
      exact Nat.le_trans (ih s' _) (by simpa [isConnected] using step)
    · next fault s' found =>
      rw [found] at step
      simpa [isConnected] using step

theorem supply_reconnect {s t : Session} (h : s.reconnect = (.ok true, t)) : t.supply < s.supply := by
  have := supply_reconnectFrom s 0 reconnectRounds
  unfold reconnect at h
  rw [h] at this
  exact this

/-- A client that could not connect again no longer runs. -/
theorem running_reconnectFrom {s t : Session} {round left : Nat}
    (h : s.reconnectFrom round left = (.ok false, t)) : t.running = false := by
  induction left generalizing s round with
  | zero =>
    cases h
    rfl
  | succ left ih =>
    unfold reconnectFrom at h
    split at h
    · cases h
    · exact ih h
    · cases h

theorem supply_handleLine (s : Session) (bytes : List UInt8) :
    (s.handleLine bytes).2.supply = s.supply := by
  unfold handleLine
  split
  · rfl
  · split
    · rfl
    · split <;> rfl

/-- What bounds the turns to come: nothing once the client no longer runs. -/
def patience (s : Session) : Nat := if s.running then s.supply + 1 else 0

theorem supply_endOfFile {s t : Session} (h : s.endOfFile = (none, t)) :
    t.running = false ∨ t.supply < s.supply := by
  unfold endOfFile at h
  split at h
  · next again s' found =>
    cases h
    cases again with
    | true => exact .inr (by simpa using supply_reconnect found)
    | false => exact .inl (running_reconnectFrom found)
  · cases h

theorem supply_connectionLost {s t : Session} (h : s.connectionLost = (none, t)) : t.supply < s.supply := by
  unfold connectionLost at h
  split at h
  · next found =>
    cases h
    simpa using supply_reconnect found
  · cases h
  · cases h

theorem patience_turn {silent : Bool} {s t : Session} (running : s.running = true)
    (h : s.turn silent = (none, t)) : t.patience < s.patience := by
  have less : t.running = false ∨ t.supply < s.supply := by
    unfold turn at h
    split at h
    · split at h
      · cases h
      · exact supply_endOfFile h
    · next bytes rest arriving =>
      have popped : ({ s with arriving := rest } : Session).supply < s.supply := by simp [supply, arriving]
      dsimp only at h
      split at h
      · exact (supply_endOfFile h).imp_right fun less => Nat.lt_trans less popped
      · have same := supply_handleLine { s with arriving := rest } bytes
        split at h
        · cases h
        · next t' found =>
          cases h
          rw [found] at same
          exact .inr (same ▸ popped)
    · next rest arriving =>
      have popped : ({ s with arriving := rest } : Session).supply < s.supply := by simp [supply, arriving]
      exact .inr (Nat.lt_trans (supply_connectionLost h) popped)
    · cases h
  unfold patience
  rw [if_pos running]
  split
  · next still =>
    rcases less with off | less
    · rw [still] at off
      cases off
    · omega
  · omega

/-- Listens, turn after turn, until something ends it or the client no longer runs. -/
def listen (silent : Bool) (s : Session) : ListenEnd × Session :=
  if _running : s.running = true then
    match _turned : s.turn silent with
    | (some reason, t) => (reason, t)
    | (none, t) => listen silent t
  else (.stopped, s)
termination_by s.patience
decreasing_by exact patience_turn _running _turned

/-! ## Sending -/

/-- Writes a line; whether that worked. -/
def write (s : Session) (line : String) : Bool × Session :=
  match s.channel with
  | none => (false, s.print "[ERROR] Not connected to server\n")
  | some channel =>
    if channel.broken then (false, s.print "[ERROR] Failed to send message: broken\n")
    else (true, { s with channel := some { channel with sent := channel.sent ++ [line] } })

/-- The line of a request; no request is null. -/
def lineOf (now : Instant) (r : Option Request) : String :=
  ((r.map (Request.toJson now)).getD Json.null).wireText ++ "\n"

def send (s : Session) (now : Instant) (r : Option Request) : Bool × Session := s.write (lineOf now r)

/-! ## Typing -/

/-- The seconds between two signs of life. -/
def heartbeatInterval : Nat := 10

/-- Sends a sign of life after each of some periods, until the client no longer runs. -/
def heartbeats (now : Instant) : Nat → Session → Session
  | 0, s => s
  | periods + 1, s =>
    let s := s.sleep (toString heartbeatInterval)
    if s.running then heartbeats now periods (s.send now (some .heartbeat)).2 else s

/-- What the user is told at the start. -/
def welcome (s : Session) : Session :=
  (s.log (.info "[INFO] Type messages to chat, /help for server commands (Ctrl+C to exit)")).log
    (.info ("[INFO] Client commands: :register NAME EMAIL PASSWORD, :login NAME PASSWORD, :logout, " ++
      ":pm NAME TEXT, :history [NAME], :add NAME, :contacts, :quit"))

/-- Sends what the typed lines ask for, until the input ends, the user quits, or the client no longer
runs. The first line is read in any case. -/
def typeLines (now : Instant) : List String → Session → Session
  | [], s => s
  | line :: rest, s =>
    let text := Text.strip line.toList
    if line = "" ∨ text = ":quit".toList then s
    else
      let s := match parseInput line with
        | some request => (s.send now (some request)).2
        | none => if text = [] then s else s.log (.warning "[WARN] Unrecognised client command")
      if s.running then typeLines now rest s else s

/-- Says goodbye. A listener that still waits is cancelled; the fault of one that failed comes out. -/
def leave (s : Session) (now : Instant) (listener : ListenEnd) : Option ListenFault × Session :=
  let s := (({ s with running := false }).send now (some .logout)).2.sleep "0.5"
  match listener with
  | .failed fault => (some fault, s)
  | .waiting =>
    (none, (s.log (.info "[INFO] Listener cancelled")).log (.info "[INFO] Disconnected from server"))
  | _ => (none, s.log (.info "[INFO] Disconnected from server"))

/-- Connects, listens to what arrives, lets some heartbeat periods pass, sends what is typed, and leaves. -/
def interact (s : Session) (now : Instant) (periods : Nat) (typed : List String) :
    Option ListenFault × Session :=
  match s.connect defaultRetries defaultDelay with
  | (.ok false, s) => (none, s)
  | (.error fault, s) => (some (.delay fault), s)
  | (.ok true, s) =>
    let (listener, s) := s.welcome.listen true
    (typeLines now typed (heartbeats now periods s)).leave now listener

end Session

end ChatService.Client
