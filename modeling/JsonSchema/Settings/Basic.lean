import JsonSchema.Document.Load
import JsonSchema.Settings.EnvFile
import JsonSchema.Settings.Level

/-!
Settings, as variables give them.

A variable is named for its field behind the name of the program, in letters of either case. The
variables of the environment come before those of a file, and every field has a default.
-/

namespace JsonSchema

inductive Stage where
  | development
  | testing
  | production
  deriving DecidableEq, Repr

namespace Stage

def name : Stage → String
  | development => "development"
  | testing => "testing"
  | production => "production"

def ofName? (name : String) : Option Stage :=
  [development, testing, production].find? fun s => s.name == name

end Stage

inductive OutputFormat where
  | table
  | json
  deriving DecidableEq, Repr

namespace OutputFormat

def name : OutputFormat → String
  | table => "table"
  | json => "json"

def ofName? (name : String) : Option OutputFormat := [table, json].find? fun f => f.name == name

end OutputFormat

structure Settings where
  environment : Stage := .development
  debug : Bool := false
  logLevel : LogLevel := .info
  outputFormat : OutputFormat := .table
  /-- How many violations a table shows, at least one. -/
  maxTableRows : Nat := 200
  deriving DecidableEq, Repr

namespace Settings

/-! ### Words and numbers -/

def asciiLower (s : String) : String := String.ofList (s.toList.map Char.toLower)

def trueWords : List String := ["1", "true", "yes", "on", "t", "y"]

def falseWords : List String := ["0", "false", "no", "off", "f", "n"]

def readBool? (s : String) : Option Bool :=
  let word := asciiLower s
  if trueWords.contains word then some true
  else if falseWords.contains word then some false
  else none

/-- White space around a number. The four separators of ASCII are none. -/
def isMargin (c : Char) : Bool := Text.isBlank c && !(28 ≤ c.toNat && c.toNat ≤ 31)

def trim (cs : List Char) : List Char :=
  ((cs.dropWhile isMargin).reverse.dropWhile isMargin).reverse

/-- Leading zeros, with underscores among them, are passed in front of another digit. -/
def withoutLeadingZeros (cs : List Char) : List Char :=
  if cs.head? == some '0' then cs.dropWhile fun c => c == '0' || c == '_' else cs

/-- Zeros behind a point are passed, with the point. -/
def withoutFraction (cs : List Char) : List Char :=
  match cs.span (· != '.') with
  | (whole, '.' :: fraction) => if fraction.all (· == '0') then whole else cs
  | _ => cs

/-- Digits with single underscores between them. -/
def joinedDigits? : List Char → Option (List Char)
  | [] => none
  | [c] => if c.isDigit then some [c] else none
  | c :: '_' :: rest => if c.isDigit then (joinedDigits? rest).map (c :: ·) else none
  | c :: rest => if c.isDigit then (joinedDigits? rest).map (c :: ·) else none

/-- A number that is not zero, perhaps behind a plus sign. -/
def readPositive? (s : String) : Option Nat := do
  let cs := trim s.toList
  let cs := if cs.head? == some '+' then cs.tail else cs
  let digits ← joinedDigits? (withoutFraction (withoutLeadingZeros cs))
  if digits.length ≤ digitLimit && digits.head? != some '0' then
    return Json.digitsValue digits
  else none

/-! ### Fields -/

/-- What the names of all variables begin with. -/
def home : String := "schemavalidator_"

/-- The value for a field: the last variable of its name that has one. -/
def lookup? (vs : EnvFile.Variables) (field : String) : Option String :=
  ((vs.reverse.find? fun v => Text.lowerCase v.1 == home ++ field).map (·.2)).join

/-- The value of a field: its default if no variable is set, none if the variable is no good. -/
def read? {α : Type} (value : Option String) (read : String → Option α) (default : α) :
    Option α :=
  match value with
  | some s => read s
  | none => some default

/-- The fields whose variables are no good. -/
def badFields (find? : String → Option String) : List String :=
  let isBad {α : Type} (field : String) (read : String → Option α) : Bool :=
    (find? field).any fun s => (read s).isNone
  (if isBad "debug" readBool? then ["debug"] else [])
    ++ (if isBad "environment" Stage.ofName? then ["environment"] else [])
    ++ (if isBad "log_level" LogLevel.ofName? then ["log_level"] else [])
    ++ (if isBad "max_table_rows" readPositive? then ["max_table_rows"] else [])
    ++ (if isBad "output_format" OutputFormat.ofName? then ["output_format"] else [])

/-- The settings that variables give, or the fields that are no good. -/
def ofVariables (find? : String → Option String) : Except (List String) Settings :=
  let usual : Settings := {}
  let settings : Option Settings := do
    let environment ← read? (find? "environment") Stage.ofName? usual.environment
    let debug ← read? (find? "debug") readBool? usual.debug
    let logLevel ← read? (find? "log_level") LogLevel.ofName? usual.logLevel
    let outputFormat ← read? (find? "output_format") OutputFormat.ofName? usual.outputFormat
    let maxTableRows ← read? (find? "max_table_rows") readPositive? usual.maxTableRows
    return ⟨environment, debug, logLevel, outputFormat, maxTableRows⟩
  match settings with
  | some s => .ok s
  | none => .error (badFields find?)

/-! ### Sources -/

def filePath : FilePath := .ofText ".env"

def fileContent (files : Files) : Except Fault EnvFile.Content :=
  match files filePath with
  | .error _ => .ok ⟨[], []⟩
  | .ok bytes =>
    match Text.Utf8.decode? bytes with
    | some text => .ok (EnvFile.content (Document.unifyBreaks text))
    | none => .error .notUnicode

/-- What is reported of a line of the file that is no statement. -/
def unreadMessage (line : Nat) : String :=
  s!"python-dotenv could not parse statement starting at line {line}"

/-- The settings of an environment, and what is reported of the file of variables. -/
def load (environment : EnvFile.Variables) (files : Files) :
    Except Fault (List String × Except Fault Settings) := do
  let content ← fileContent files
  let fileVariables := EnvFile.assignments environment content.statements
  let find? (field : String) : Option String :=
    (lookup? environment field).or (lookup? fileVariables field)
  let settings := (ofVariables find?).mapError fun fields =>
    Fault.settings "Invalid schemavalidator settings:" fields
  return (content.unread.map unreadMessage, settings)

end Settings

end JsonSchema
