import JsonSchema.Notice
import JsonSchema.Settings.Basic

/-!
Which reports are written out, and how.

Once a level is set, reports are written with their severity and origin. Those of the program go by
the level; two other origins are quiet below warnings.
-/

namespace JsonSchema

structure Report where
  origin : String
  severity : Severity
  message : String
  deriving DecidableEq, Repr

/-- A notice is of interest only where defects are looked for. -/
def Notice.report (n : Notice) : Report := ⟨n.origin, Severity.debug, n.message⟩

/-- The level from which on reports are written; none as long as it is not set. -/
structure Logging where
  level : Option Severity
  deriving DecidableEq, Repr

namespace Logging

def unset : Logging := ⟨none⟩

def home : String := "schemavalidator"

/-- Origins that report much about little. -/
def quietOrigins : List String := ["markdown_it", "asyncio"]

def isWithin (origin whole : String) : Bool :=
  origin == whole || (whole ++ ".").toList.isPrefixOf origin.toList

def rootOrigin : String := "root"

def threshold (level : Severity) (origin : String) : Severity :=
  if isWithin origin home then if level = 0 then Severity.debug else level
  else if quietOrigins.any (isWithin origin) then Severity.warning
  else Severity.debug

/-- The text of a report, if it is written. Before a level is set, warnings are written as they
are. -/
def text? (l : Logging) (r : Report) : Option String :=
  match l.level with
  | none => if Severity.warning ≤ r.severity then some r.message else none
  | some level =>
    if level ≤ r.severity ∧ threshold level r.origin ≤ r.severity then
      let origin := if r.origin.isEmpty then rootOrigin else r.origin
      some (r.severity.text ++ " | " ++ origin ++ " | " ++ r.message)
    else none

def texts (l : Logging) (rs : List Report) : List String := rs.filterMap l.text?

/-! ### Setting the level -/

/-- Words that name an act of reporting, and no level. -/
def reportingWords : List String :=
  ["debug", "info", "warning", "warn", "error", "critical", "fatal", "exception", "log"]

def severityOf (word : String) : Except Fault Severity :=
  match Severity.ofName? word with
  | some s => .ok s
  | none =>
    if reportingWords.contains word then .error (.misuse (.notANumber "function"))
    else .error (.noMembers "module")

def configure (settings : Settings) (word : Option String) : Except Fault Logging := do
  let word := word.getD ""
  let level ← severityOf (if word.isEmpty then settings.logLevel.name else word)
  return ⟨some level⟩

def levelName (l : Logging) : String := (l.level.getD 0).text

def outputs (l : Logging) : Nat := if l.level.isSome then 1 else 0

end Logging

end JsonSchema
