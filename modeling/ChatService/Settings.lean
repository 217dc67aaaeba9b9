import ChatService.CommandLine.Basic
import ChatService.Log

/-!
# Settings

What the server and the client can be told at the start, with its defaults, and the last
words of a program that is interrupted or fails.
-/

namespace ChatService

/-- The TCP number of a server unless a program is told otherwise. -/
def defaultPort : Int := 5000

/-- How a program's work ends. -/
inductive RunEnd
  | interrupted
  | failed (reason : String)
deriving DecidableEq, Repr

/-! ## The server -/

/-- What a server can be told. -/
structure ServerSettings where
  host : String
  tcpPort : Int
  logsDirectory : String
  /-- The cost of protecting a password. -/
  hashRounds : Int
deriving DecidableEq, Repr

inductive StartFault
  /-- What the surroundings propose to listen on is no number. -/
  | proposedPort
  | exit (reason : EarlyExit)
deriving DecidableEq, Repr

namespace ServerSettings

/-- The settings of a server that was told nothing. -/
def default : ServerSettings := ⟨"0.0.0.0", defaultPort, "logs", 12⟩

/-- The seconds that the weather service may take. -/
def weatherTimeout : Nat := 5

/-- The seconds that the rates service may take. -/
def ratesTimeout : Nat := 10

def hostRule : OptionRule := ⟨"--host".toList, .text⟩
def portRule : OptionRule := ⟨"--port".toList, .whole⟩
def logsRule : OptionRule := ⟨"--logs-dir".toList, .text⟩
def roundsRule : OptionRule := ⟨"--bcrypt-rounds".toList, .whole⟩
def debugRule : OptionRule := ⟨"--debug".toList, .switch⟩

def rules : List OptionRule := [hostRule, portRule, logsRule, roundsRule, debugRule]

/-- The TCP number that the surroundings propose, or the default. -/
def portOf? : Option String → Option Int
  | none => some defaultPort
  | some s => Numeral.whole? s.toList

/-- The settings and the least important log level that is shown. The proposal of the surroundings is
looked at first, also when the arguments name another number. -/
def ofArguments (proposed : Option String) (arguments : List String) :
    Except StartFault (ServerSettings × LogLevel) :=
  match portOf? proposed with
  | none => .error .proposedPort
  | some tcpPort =>
    match CommandLine.read rules arguments with
    | .error reason => .error (.exit reason)
    | .ok said =>
      .ok (⟨CommandLine.textOr said hostRule default.host, CommandLine.wholeOr said portRule tcpPort,
          CommandLine.textOr said logsRule default.logsDirectory,
          CommandLine.wholeOr said roundsRule default.hashRounds⟩,
        if (CommandLine.value? said debugRule).isSome then .debug else .info)

/-- What is logged when listening begins at an address. -/
def listening (address : String) : LogLine := .info ("Server listening on " ++ address)

def farewell : RunEnd → LogLine
  | .interrupted => .info "Server shutting down..."
  | .failed reason => .error ("Error in server: " ++ reason)

end ServerSettings

/-! ## The client -/

/-- What a client can be told. -/
structure ClientSettings where
  host : String
  tcpPort : Int
deriving DecidableEq, Repr

namespace ClientSettings

/-- The settings of a client that was told nothing. -/
def default : ClientSettings := ⟨"localhost", defaultPort⟩

def hostRule : OptionRule := ⟨"--server-ip".toList, .text⟩
def portRule : OptionRule := ⟨"--port".toList, .whole⟩

def rules : List OptionRule := [hostRule, portRule]

/-- The settings that the arguments ask for. -/
def ofArguments (arguments : List String) : Except EarlyExit ClientSettings :=
  (CommandLine.read rules arguments).map fun said =>
    ⟨CommandLine.textOr said hostRule default.host, CommandLine.wholeOr said portRule default.tcpPort⟩

def farewell : RunEnd → Text
  | .interrupted => "\n[INFO] Interrupted by user\n"
  | .failed reason => (LogLine.error ("Error in client: " ++ reason)).render ++ "\n"

end ClientSettings

end ChatService
