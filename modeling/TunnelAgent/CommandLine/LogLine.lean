import TunnelAgent.Text.Terminal

/-!
Lines of the log: how grave a line is, the part of the program it is about, and what it says.
-/

namespace TunnelAgent.CommandLine

inductive Level where
  | error
  | warn
  | info
  | debug
  | trace
  deriving DecidableEq, Repr

namespace Level

def text : Level → String
  | error => "ERROR"
  | warn => "WARN"
  | info => "INFO"
  | debug => "DEBUG"
  | trace => "TRACE"

/-- How much is shown at this level; zero shows nothing. -/
def rank : Level → Nat
  | error => 1
  | warn => 2
  | info => 3
  | debug => 4
  | trace => 5

end Level

structure LogLine where
  level : Level
  target : String
  message : String
  /-- named values, written behind the message -/
  values : List (String × String) := []
  deriving DecidableEq, Repr

namespace LogLine

/-- The names of all that a line carries. -/
def fieldNames (line : LogLine) : List String := "message" :: line.values.map (·.1)

/-- What a line says, with its values. -/
def body (line : LogLine) : String :=
  Text.Terminal.spelled line.message ++ String.join (line.values.map fun (name, value) => s!" {name}={value}")

def text (line : LogLine) : String := s!"{line.level.text} {line.target}: {line.body}"

end LogLine

end TunnelAgent.CommandLine
