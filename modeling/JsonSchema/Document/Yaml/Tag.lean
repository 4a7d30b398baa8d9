import JsonSchema.Document.Yaml.Cursor

/-!
The tags of YAML nodes, and the tags that plain scalars have by their form.
-/

namespace JsonSchema.Yaml

inductive Tag where
  | null
  | bool
  | int
  | float
  | binary
  | timestamp
  | omap
  | pairs
  | set
  | str
  | seq
  | map
  | merge
  | value
  | other (name : String)
  deriving DecidableEq, Repr

namespace Tag

/-- What the names of all known tags begin with. -/
def home : String := "tag:yaml.org,2002:"

def known : List (String × Tag) := [
  ("null", null), ("bool", bool), ("int", int), ("float", float), ("binary", binary),
  ("timestamp", timestamp), ("omap", omap), ("pairs", pairs), ("set", set), ("str", str),
  ("seq", seq), ("map", map), ("merge", merge), ("value", value)]

def ofName (name : String) : Tag :=
  match known.find? fun k => home ++ k.1 == name with
  | some k => k.2
  | none => other name

end Tag

/-! ### Forms of plain scalars -/

namespace Form

/-- The characters of a text that forms are looked for in: a line feed at the end, behind others,
does not count. -/
def visible (cs : List Char) : List Char :=
  if cs.tail.getLast? == some '\n' then cs.dropLast else cs

def isSign (c : Char) : Bool := c == '-' || c == '+'

def withoutSign : List Char → List Char
  | c :: rest => if isSign c then rest else c :: rest
  | [] => []

def isDigitOrLow (c : Char) : Bool := c.isDigit || c == '_'

def isOctalOrLow (c : Char) : Bool := ('0' ≤ c && c ≤ '7') || c == '_'

def isHexOrLow (c : Char) : Bool := isHexDigit c || c == '_'

def someOf (test : Char → Bool) (cs : List Char) : Bool := !cs.isEmpty && cs.all test

def startsWithDigit (cs : List Char) : Bool := cs.head?.any Char.isDigit

/-- One part of a number in base sixty, behind a colon. -/
def sixtiethsPart : List Char → Option (List Char)
  | ':' :: a :: b :: rest =>
    if a.isDigit && b.isDigit then if a ≤ '5' then some rest else none
    else if a.isDigit then some (b :: rest)
    else none
  | [':', a] => if a.isDigit then some [] else none
  | _ => none

/-- The rest behind one or more parts of a number in base sixty. -/
def sixtieths : (fuel : Nat) → List Char → Option (List Char)
  | 0, _ => none
  | fuel + 1, cs =>
    match sixtiethsPart cs with
    | none => none
    | some rest => if rest.head? == some ':' then sixtieths fuel rest else some rest

def isBool (cs : List Char) : Bool :=
  ["yes", "Yes", "YES", "no", "No", "NO", "true", "True", "TRUE", "false", "False", "FALSE",
    "on", "On", "ON", "off", "Off", "OFF"].contains (String.ofList cs)

def isNull (cs : List Char) : Bool :=
  ["", "~", "null", "Null", "NULL"].contains (String.ofList cs)

/-- An exponent always has a sign. -/
def isExponent : List Char → Bool
  | c :: s :: rest => (c == 'e' || c == 'E') && isSign s && someOf Char.isDigit rest
  | _ => false

def isFraction (cs : List Char) : Bool :=
  let rest := cs.dropWhile isDigitOrLow
  rest.isEmpty || isExponent rest

def isFloat (cs : List Char) : Bool :=
  let body := withoutSign cs
  let behind := body.dropWhile isDigitOrLow
  (startsWithDigit body && behind.head? == some '.' && isFraction behind.tail)
    || (cs.head? == some '.' && startsWithDigit cs.tail && isFraction cs.tail)
    || (startsWithDigit body && match sixtieths cs.length behind with
      | some ('.' :: rest) => rest.all isDigitOrLow
      | _ => false)
    || [".inf", ".Inf", ".INF"].contains (String.ofList body)
    || [".nan", ".NaN", ".NAN"].contains (String.ofList cs)

def isInt (cs : List Char) : Bool :=
  match withoutSign cs with
  | ['0'] => true
  | '0' :: 'b' :: rest => someOf (fun c => c == '0' || c == '1' || c == '_') rest
  | '0' :: 'x' :: rest => someOf isHexOrLow rest
  | '0' :: rest => someOf isOctalOrLow rest
  | c :: rest =>
    c.isDigit && (rest.all isDigitOrLow
      || sixtieths cs.length (rest.dropWhile isDigitOrLow) == some [])
  | [] => false

/-! ### Times -/

/-- The parts of a time in text, as digits. -/
structure Time where
  hour : List Char
  minute : List Char
  second : List Char
  fraction : List Char
  /-- The zone: none, universal time, or a sign with hours and minutes. -/
  zone : Option (Option (Bool × List Char × List Char))

structure Timestamp where
  year : List Char
  month : List Char
  day : List Char
  time : Option Time

def isBlank (c : Char) : Bool := c == ' ' || c == '\t'

/-- Between `least` and `most` digits. -/
def digits? (least most : Nat) (cs : List Char) : Option (List Char × List Char) :=
  let ds := (cs.take most).takeWhile Char.isDigit
  if least ≤ ds.length then some (ds, cs.drop ds.length) else none

def sign? (c : Char) : List Char → Option (List Char)
  | x :: rest => if x == c then some rest else none
  | [] => none

def zone? (cs : List Char) : Option (Option (Option (Bool × List Char × List Char))) :=
  match cs.dropWhile isBlank with
  | [] => if cs.isEmpty then some none else none
  | ['Z'] => some (some none)
  | c :: rest =>
    if isSign c then do
      let (hour, rest) ← digits? 1 2 rest
      if rest.isEmpty then return some (some (c == '-', hour, []))
      else
        let (minute, rest) ← digits? 2 2 (← sign? ':' rest)
        if rest.isEmpty then return some (some (c == '-', hour, minute)) else none
    else none

def time? (cs : List Char) : Option Time := do
  let rest ← match cs with
    | c :: rest =>
      if c == 'T' || c == 't' then some rest
      else if isBlank c then some (rest.dropWhile isBlank)
      else none
    | [] => none
  let (hour, rest) ← digits? 1 2 rest
  let (minute, rest) ← digits? 2 2 (← sign? ':' rest)
  let (second, rest) ← digits? 2 2 (← sign? ':' rest)
  let (fraction, rest) := match rest with
    | '.' :: rest => rest.span Char.isDigit
    | rest => ([], rest)
  return ⟨hour, minute, second, fraction, ← zone? rest⟩

/-- The parts of a date or time; a date on its own may have short months and days here. -/
def timestamp? (cs : List Char) : Option Timestamp := do
  let (year, rest) ← digits? 4 4 cs
  let (month, rest) ← digits? 1 2 (← sign? '-' rest)
  let (day, rest) ← digits? 1 2 (← sign? '-' rest)
  if rest.isEmpty then return ⟨year, month, day, none⟩
  else return ⟨year, month, day, some (← time? rest)⟩

/-- A date on its own has months and days of two digits. -/
def isTimestamp (cs : List Char) : Bool :=
  match timestamp? cs with
  | some t => t.time.isSome || (t.month.length == 2 && t.day.length == 2)
  | none => false

/-- The signs that start words of the format, on their own. -/
def isReserved (cs : List Char) : Bool := cs == ['!'] || cs == ['&'] || cs == ['*']

end Form

def Tag.ofPlain (text : List Char) : Tag :=
  let cs := Form.visible text
  if Form.isBool cs then .bool
  else if Form.isFloat cs then .float
  else if Form.isInt cs then .int
  else if cs == ['<', '<'] then .merge
  else if Form.isNull cs then .null
  else if Form.isTimestamp cs then .timestamp
  else if cs == ['='] then .value
  else if Form.isReserved cs then .other (Tag.home ++ "yaml")
  else .str

end JsonSchema.Yaml
