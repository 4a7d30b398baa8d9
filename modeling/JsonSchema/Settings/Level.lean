/-!
How much a report matters, as a number and by name.
-/

namespace JsonSchema

inductive LogLevel where
  | debug
  | info
  | warning
  | error
  deriving DecidableEq, Repr

namespace LogLevel

def name : LogLevel → String
  | debug => "DEBUG"
  | info => "INFO"
  | warning => "WARNING"
  | error => "ERROR"

def all : List LogLevel := [debug, info, warning, error]

def ofName? (name : String) : Option LogLevel := all.find? fun l => l.name == name

end LogLevel

/-- A severity, greater for what matters more. -/
abbrev Severity := Nat

namespace Severity

def debug : Severity := 10

def info : Severity := 20

def warning : Severity := 30

def error : Severity := 40

def critical : Severity := 50

/-- The names under which severities are known; the first name of a severity is its own. -/
def names : List (String × Severity) := [
  ("NOTSET", 0), ("DEBUG", debug), ("INFO", info), ("WARNING", warning), ("ERROR", error),
  ("CRITICAL", critical), ("WARN", warning), ("FATAL", critical)]

def ofName? (name : String) : Option Severity :=
  (names.find? fun n => n.1 == name).map (·.2)

def text (s : Severity) : String :=
  match names.find? fun n => n.2 == s with
  | some n => n.1
  | none => s!"Level {s}"

end Severity

end JsonSchema
