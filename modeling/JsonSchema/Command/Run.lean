import JsonSchema.Command.Request
import JsonSchema.Document.Load
import JsonSchema.Logging
import JsonSchema.Terminal.Markup
import JsonSchema.Terminal.Table
import JsonSchema.Validation.Validate
import JsonSchema.Value.Indented

/-!
Carrying out a command.

The command ends with zero if the document is valid, with one if it is not, and with two if a file
cannot be loaded, the schema has a defect or the settings are no good. Faults of other kinds are
not reported and end it at once, and so does output that cannot be written as bytes.
-/

namespace JsonSchema.Command

inductive Ending where
  /-- The words of the command are answered by how it is used, or by what is wrong with them. -/
  | usage (u : Usage)
  | finished (status : Nat) (output reports : List String)
  | broken (fault : Fault)

def columns : Nat := 300

def version : String := "0.1.0"

/-! ### Output -/

/-- Lines as they are printed. A half of a pair cannot be written as bytes. -/
def printed (lines : List (List Point)) : Except Fault (List String) :=
  if lines.all (·.all (!·.isHalf)) then
    .ok (lines.map fun line => String.ofList (line.map Point.shown))
  else .error .notUnicode

def marked (ps : List Point) : List (List Point) :=
  Terminal.wrap columns .fold (Terminal.Markup.shown ps)

def escaped (t : Text) : List Point := Terminal.Markup.escape t.points

def cell (t : Text) : List Point := Terminal.Markup.shown (escaped t)

def errorOutput (message : Text) : List (List Point) :=
  marked (Terminal.Markup.styled "red" (Text.points "Error: " ++ escaped message))

def versionOutput : List (List Point) :=
  Terminal.panel columns (Text.points "Version")
    [Text.points (Logging.home ++ " v" ++ version),
      Text.points "JSON Schema draft-07 structural validator"]

def validLine (document : String) : List Point :=
  Terminal.Markup.styled "bold green"
    (Text.points "✓ " ++ escaped document ++ Text.points " is valid")

def invalidLine (document : String) : List Point :=
  Terminal.Markup.styled "bold red"
    (Text.points "✗ " ++ escaped document ++ Text.points " is invalid")

/-- Stands behind the line of an invalid document where there is nothing to show. -/
def nothingReported : List Point :=
  Text.points " " ++ Terminal.Markup.styled "dim" (Text.points "(no violations reported)")

def violationTable (count : Nat) (vs : List Violation) : Terminal.Table where
  title := Text.points s!"Violations ({count})"
  header := [Text.points "Schema location", Text.points "Value path", Text.points "Reason"]
  rows := vs.map fun v =>
    [cell v.schemaLocation.text, cell v.valuePath.text, cell v.reason.message]

/-- The lines of violations: a table of the first ones, and how many more there are. -/
def violationOutput (document : String) (most : Nat) (vs : List Violation) : List (List Point) :=
  let table := (violationTable vs.length (vs.take most)).lines columns
  let rest := vs.length - most
  marked (invalidLine document) ++ table
    ++ (if rest = 0 then []
      else marked (Terminal.Markup.styled "dim"
        (Text.points s!"... {rest} more violation(s) not shown")))

def jsonOutput (q : Value.Quoting) (v : Value) : Except Fault (List (List Point)) :=
  (v.indented q 0).map fun t => Terminal.splitLines t.points

def plainOutput (document : String) (showResult : Bool) (most : Nat) :
    Verdict → Except Fault (List (List Point))
  | .valid result => do
    let shown ← if showResult then jsonOutput .raw result else .ok []
    return marked (validLine document) ++ shown
  | .invalid [] => .ok (marked (invalidLine document ++ nothingReported))
  | .invalid vs => .ok (violationOutput document most vs)

def verdictOutput (settings : Settings) (format : Option OutputFormat) (document : String)
    (showResult : Bool) (verdict : Verdict) : Except Fault (List (List Point)) :=
  match format.getD settings.outputFormat with
  | .json => jsonOutput .ascii verdict.toValue
  | .table => plainOutput document showResult settings.maxTableRows verdict

/-! ### Tasks -/

def verdictStatus (v : Verdict) : Nat := if v.isValid then 0 else 1

def faultStatus : Nat := 2

/-- Whether a fault is reported and not passed on. -/
def isReported : Fault → Bool
  | .schema .. | .loading .. | .settings .. | .stated _ => true
  | _ => false

/-- The end of a command that prints something, if it can. -/
def endWith (status : Nat) (output : Except Fault (List (List Point))) (reports : List String) :
    Ending :=
  match output >>= printed with
  | .ok lines => .finished status lines reports
  | .error fault => .broken fault

def endAt (fault : Fault) (reports : List String) : Ending :=
  if isReported fault then endWith faultStatus (.ok (errorOutput fault.text)) reports
  else .broken fault

def verdictOnFiles (files : Files) (schema document : FilePath) : Outcome Verdict := do
  let schema ← Document.load files schema
  let document ← Document.load files document
  requireSchema schema
  JsonSchema.validate schema document .start

def runTask (settings : Settings) (logging : Logging) (warnings : List String) (files : Files) :
    Task → Ending
  | .version => endWith 0 (.ok versionOutput) warnings
  | .validate schema document format showResult =>
    let document := FilePath.ofText document
    let outcome := verdictOnFiles files (.ofText schema) document
    let reports := warnings ++ logging.texts (outcome.notices.map Notice.report)
    match outcome.result with
    | .error fault => endAt fault reports
    | .ok verdict =>
      let output := verdictOutput settings format document.text showResult verdict
      endWith (verdictStatus verdict) output reports

def Request.run (environment : EnvFile.Variables) (files : Files) (r : Request) : Ending :=
  match Settings.load environment files with
  | .error fault => .broken fault
  | .ok (warnings, settings) =>
    let configured := do
      let settings ← settings
      return (settings, ← Logging.configure settings (r.level.map LogLevel.name))
    match configured with
    | .error fault => endAt fault warnings
    | .ok (settings, logging) =>
      match r.task with
      | .error usage => .usage usage
      | .ok task => runTask settings logging warnings files task

def run (environment : EnvFile.Variables) (files : Files) (words : List String) : Ending :=
  match Request.ofWords words with
  | .error usage => .usage usage
  | .ok request => request.run environment files

end JsonSchema.Command

namespace JsonSchema.Text

/-- A text as a string where one is asked for. -/
instance : CoeOut Text String := ⟨escaped⟩

end JsonSchema.Text
