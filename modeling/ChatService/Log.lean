import ChatService.Text.Basic

/-!
# Log lines

What the service reports about its work, by importance.
-/

namespace ChatService

/-- How important a line is. -/
inductive LogLevel
  | debug
  | info
  | warning
  | error
deriving DecidableEq, Repr

namespace LogLevel

def name : LogLevel → String
  | debug => "DEBUG"
  | info => "INFO"
  | warning => "WARNING"
  | error => "ERROR"

def number : LogLevel → Nat
  | debug => 10
  | info => 20
  | warning => 30
  | error => 40

end LogLevel

structure LogLine where
  level : LogLevel
  text : Text
deriving DecidableEq, Repr

namespace LogLine

def debug (text : Text) : LogLine := ⟨.debug, text⟩
def info (text : Text) : LogLine := ⟨.info, text⟩
def warning (text : Text) : LogLine := ⟨.warning, text⟩
def error (text : Text) : LogLine := ⟨.error, text⟩

def render (line : LogLine) : Text := line.level.name ++ " " ++ line.text

/-- Whether a line is written at a threshold. -/
def passes (threshold : LogLevel) (line : LogLine) : Bool := threshold.number ≤ line.level.number

end LogLine

end ChatService
