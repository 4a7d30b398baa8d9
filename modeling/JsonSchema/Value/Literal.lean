import JsonSchema.Text.Literal
import JsonSchema.Value.Equality

/-!
Values written as literals, and the text of a value as a name.

The text of a string is the string itself, that of a date or time its usual written form; every
other value is written as a literal.
-/

namespace JsonSchema

def Double.literal (x : Double) : String := roundTripLayout.write x

def Number.literal : Number → String
  | .int n => toString n
  | .double x => x.literal

namespace Value

def commaSeparated (parts : List String) : String := ", ".intercalate parts

def enclosed (left right : String) (parts : List String) : String :=
  left ++ commaSeparated parts ++ right

/-- The distance from universal time, as whole days and the seconds left of the day. -/
def offsetLiteral (seconds : Int) : String :=
  if seconds = 0 then "datetime.timezone.utc"
  else
    let days := seconds / 86400
    let rest := seconds % 86400
    let parts := (if days = 0 then [] else [s!"days={days}"])
      ++ (if rest = 0 then [] else [s!"seconds={rest}"])
    "datetime.timezone(" ++ enclosed "datetime.timedelta(" ")" parts ++ ")"

def dateLiteral (d : Date) : String :=
  enclosed "datetime.date(" ")" [toString d.year, toString d.month, toString d.day]

/-- Seconds are left out when they and the microseconds are zero. -/
def datetimeLiteral (t : DateTime) : String :=
  let fields := [t.date.year, t.date.month, t.date.day, t.hour, t.minute]
    ++ (if t.second = 0 ∧ t.microsecond = 0 then [] else [t.second])
    ++ (if t.microsecond = 0 then [] else [t.microsecond])
  let zone := match t.offset with
    | none => []
    | some o => ["tzinfo=" ++ offsetLiteral o]
  enclosed "datetime.datetime(" ")" (fields.map toString ++ zone)

mutual

def literal : Value → String
  | undefined => "UNDEFINED"
  | null => "None"
  | bool b => if b then "True" else "False"
  | number x => x.literal
  | string s => Text.stringLiteral s
  | array .list items => enclosed "[" "]" (literals items)
  | array .tuple items =>
    match literals items with
    | [one] => "(" ++ one ++ ",)"
    | parts => enclosed "(" ")" parts
  | object entries => enclosed "\x7b" "\x7d" (entryLiterals entries)
  | date d => dateLiteral d
  | datetime t => datetimeLiteral t
  | bytes bs => Text.bytesLiteral bs
  | set members =>
    match literals members with
    | [] => "set()"
    | parts => enclosed "\x7b" "\x7d" parts

def literals : List Value → List String
  | [] => []
  | v :: rest => literal v :: literals rest

def entryLiterals : List (Value × Value) → List String
  | [] => []
  | (k, v) :: rest => (literal k ++ ": " ++ literal v) :: entryLiterals rest

end

/-- The text of a value as a name: of a member, or in a location. -/
def text : Value → Text
  | string s => s
  | date d => d.text
  | datetime t => t.textWith " "
  | v => v.literal

end Value

end JsonSchema
