import ChatService.Client.Session
import ChatService.Server.Basic
import ChatService.Settings
import Std.Time.DateTime.Timestamp

/-!
# The programs

Three filters on lines, so that a conversation is a pipeline of them. `server` takes request
lines as the bytes of one connection and prints the replies; `client` turns typed lines into
request lines; `show` prints replies for reading.
-/

namespace ChatService.Console

def now : IO Instant := do
  let time ← Std.Time.Timestamp.now
  return ⟨time.toNanosecondsSinceUnixEpoch.val / 1000⟩

/-- Prints a log line on the error stream if it is important enough. Halves that stand alone are escaped. -/
def log (threshold : LogLevel) (line : LogLine) : IO Unit :=
  let shown : CodePoint → List Char := fun c => match c with
    | .char c => [c]
    | .half n => Json.unitEscape (CodePoint.half n).value
  if line.passes threshold then IO.eprintln (String.ofList (line.render.flatMap shown)) else pure ()

def report (threshold : LogLevel) (events : List ServerEvent) : IO Unit :=
  events.forM fun event => match event with
    | .sent _ reply => IO.print (Server.lineOf reply)
    | .logged line => log threshold line
    | .fetched _ => pure ()

/-- The server with the next joke picked. -/
def pickJoke (s : Server) : IO Server := do
  let pick ← IO.rand 0 (BuiltIn.jokes.length - 1)
  let commands := s.hub.commands
  let surroundings := { commands.surroundings with jokes := [pick] }
  return { s with hub := { s.hub with commands := { commands with surroundings } } }

/-- Hands the lines of the input to a connection until the input ends. -/
partial def serveLines (threshold : LogLevel) (connection : String) (s : Server) : IO Server := do
  let line ← (← IO.getStdin).getLine
  let occurrence := if line.isEmpty then Server.Occurrence.endOfFile else .bytes line.toUTF8.toList
  let (s, events) := (← pickJoke s).occur (← now) connection occurrence
  report threshold events
  (← IO.getStdout).flush
  if line.isEmpty then return s else serveLines threshold connection s

/-- Adds the lines of the chat log to its file. -/
def keepLog (directory : String) (l : ChatLog) : IO Unit :=
  match l.content? with
  | none => pure ()
  | some content => do
    IO.FS.createDirAll directory
    IO.FS.withFile l.path .append fun file => file.putStr content

/-- Serves one connection on the standard streams. -/
def serve (settings : ServerSettings) (threshold : LogLevel) : IO Unit := do
  log threshold (ServerSettings.listening (settings.host ++ ":" ++ toString settings.tcpPort))
  let hub := Hub.create (.empty .plain Store.defaultMaxHistory Store.defaultMaxPrivateHistory)
    (.empty Rates.Cache.defaultTtl Instant.uptime) ⟨[], []⟩
    (.empty (settings.logsDirectory ++ "/chat_history.log") none fun _ now => now)
  let (s, connection, events) := (Server.create hub Server.defaultLimit).accept "standard input" false
  report threshold events
  (← IO.getStdout).flush
  let s ← serveLines threshold connection s
  keepLog settings.logsDirectory s.hub.chatLog

/-- Prints the requests that the typed lines ask for. -/
partial def typeLines : IO Unit := do
  let line ← (← IO.getStdin).getLine
  if line.isEmpty || Text.strip line.toList = ":quit".toList then return
  match Client.parseInput line with
  | some request => IO.print (Client.Session.lineOf (← now) (some request))
  | none => pure ()
  (← IO.getStdout).flush
  typeLines

/-- Prints replies for reading. -/
partial def showLines : IO Unit := do
  let line ← (← IO.getStdin).getLine
  if line.isEmpty then return
  match Json.read (Text.strip line.toList) with
  | .ok v => IO.print (Client.printed (Client.display v))
  | .error _ => IO.eprintln "[ERROR] Malformed JSON received"
  (← IO.getStdout).flush
  showLines

/-- Prints the usage when it was asked for or is needed, and gives the exit code. -/
def leave (reason : EarlyExit) : IO UInt32 := do
  let usage := "usage: server [options] | client [options] | show"
  if reason = .usage then IO.println usage else IO.eprintln usage
  return reason.code.toUInt32

end ChatService.Console

open ChatService ChatService.Console in
/-- Runs the program that the first argument names. -/
def main (arguments : List String) : IO UInt32 := do
  match arguments with
  | "server" :: rest =>
    match ServerSettings.ofArguments (← IO.getEnv "PORT") rest with
    | .ok (settings, threshold) =>
      serve settings threshold
      return 0
    | .error .proposedPort =>
      IO.eprintln "PORT is not a number"
      return 1
    | .error (.exit reason) => leave reason
  | "client" :: rest =>
    match ClientSettings.ofArguments rest with
    | .ok _ =>
      typeLines
      return 0
    | .error reason => leave reason
  | ["show"] =>
    showLines
    return 0
  | _ => leave .refused
