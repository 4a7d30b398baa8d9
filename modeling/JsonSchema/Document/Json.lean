import JsonSchema.Value.Render
import JsonSchema.Value.Traits

/-!
Reading JSON text.

Besides JSON proper, `NaN`, `Infinity` and `-Infinity` are read as doubles. A number without a
fraction and an exponent is an integer of any size, up to the limit on digits. Of two members
with one name the later value stands, at the place of the earlier.
-/

namespace JsonSchema.Json

inductive Error where
  /-- The text is no JSON from `rest` on. -/
  | malformed (message : String) (rest : List Char)
  /-- An integer has too many digits. -/
  | tooManyDigits
  deriving Repr

/-- What was read, and the text behind it. -/
abbrev Read (α : Type) := Except Error (α × List Char)

def isBlank (c : Char) : Bool := c == ' ' || c == '\t' || c == '\n' || c == '\r'

def skipBlanks (cs : List Char) : List Char := cs.dropWhile isBlank

/-! ### Strings -/

def hexValue? (c : Char) : Option Nat :=
  if c.isDigit then some (c.toNat - 48)
  else if 'a' ≤ c ∧ c ≤ 'f' then some (c.toNat - 87)
  else if 'A' ≤ c ∧ c ≤ 'F' then some (c.toNat - 55)
  else none

def hexCode? (a b c d : Char) : Option Nat := do
  return ((← hexValue? a) * 16 + (← hexValue? b)) * 256
    + ((← hexValue? c) * 16 + (← hexValue? d))

def isHighSurrogate (code : Nat) : Bool := 0xd800 ≤ code && code ≤ 0xdbff

def isLowSurrogate (code : Nat) : Bool := 0xdc00 ≤ code && code ≤ 0xdfff

def joinSurrogates (high low : Nat) : Char :=
  Char.ofNat (0x10000 + (high - 0xd800) * 1024 + (low - 0xdc00))

def simpleEscape? (c : Char) : Option Char :=
  match c with
  | '"' => some '"'
  | '\\' => some '\\'
  | '/' => some '/'
  | 'b' => some '\x08'
  | 'f' => some '\x0c'
  | 'n' => some '\n'
  | 'r' => some '\r'
  | 't' => some '\t'
  | _ => none

def badUnicode (rest : List Char) : Read (List Point) :=
  .error (.malformed "Invalid \\uXXXX escape" rest)

/-- The code points of a string up to its closing quote, which is passed; `start` is the text from
the opening quote on. Of the escapes of two halves only a high one and a low one behind it make a
character. -/
def stringBody (start : List Char) : List Char → Read (List Point)
  | [] => .error (.malformed "Unterminated string starting at" start)
  | '"' :: rest => .ok ([], rest)
  | '\\' :: 'u' :: a :: b :: c :: d :: rest =>
    match hexCode? a b c d, rest with
    | some high, '\\' :: 'u' :: e :: f :: g :: h :: next :: rest' =>
      if isHighSurrogate high then
        match hexCode? e f g h with
        | some low =>
          if isLowSurrogate low then
            (stringBody start (next :: rest')).map fun r =>
              (.char (joinSurrogates high low) :: r.1, r.2)
          else
            (stringBody start ('\\' :: 'u' :: e :: f :: g :: h :: next :: rest')).map fun r =>
              (.ofCode high :: r.1, r.2)
        | none => badUnicode ('u' :: e :: f :: g :: h :: next :: rest')
      else
        (stringBody start ('\\' :: 'u' :: e :: f :: g :: h :: next :: rest')).map fun r =>
          (.ofCode high :: r.1, r.2)
    | some code, next :: rest' =>
      (stringBody start (next :: rest')).map fun r => (.ofCode code :: r.1, r.2)
    | _, _ => badUnicode ('u' :: a :: b :: c :: d :: rest)
  | '\\' :: 'u' :: rest => badUnicode ('u' :: rest)
  | '\\' :: c :: rest =>
    match simpleEscape? c with
    | some e => (stringBody start rest).map fun r => (.char e :: r.1, r.2)
    | none => .error (.malformed "Invalid \\escape" ('\\' :: c :: rest))
  | c :: rest =>
    if c = '\\' then .error (.malformed "Unterminated string starting at" start)
    else if c.toNat < 32 then .error (.malformed "Invalid control character at" (c :: rest))
    else (stringBody start rest).map fun r => (.char c :: r.1, r.2)

/-! ### Numbers -/

def digitsValue (cs : List Char) : Nat := cs.foldl (fun n c => n * 10 + (c.toNat - 48)) 0

/-- The digits before the point: a single zero, or digits that start with no zero. -/
def wholeDigits : List Char → List Char × List Char
  | '0' :: rest => (['0'], rest)
  | cs => cs.span Char.isDigit

def fractionDigits : List Char → List Char × List Char
  | '.' :: rest =>
    match rest.span Char.isDigit with
    | ([], _) => ([], '.' :: rest)
    | found => found
  | cs => ([], cs)

def exponentSign : List Char → Bool × List Char
  | '-' :: rest => (true, rest)
  | '+' :: rest => (false, rest)
  | cs => (false, cs)

def exponent? (cs : List Char) : Option (Int × List Char) :=
  match cs with
  | c :: rest =>
    if c = 'e' ∨ c = 'E' then
      let (negative, rest) := exponentSign rest
      match rest.span Char.isDigit with
      | ([], _) => none
      | (digits, rest) =>
        let e : Int := digitsValue digits
        some (if negative then -e else e, rest)
    else none
  | [] => none

def integer (negative : Bool) (digits : List Char) : Except Error Value :=
  if digitLimit < digits.length then .error .tooManyDigits
  else
    let n : Int := digitsValue digits
    .ok (.int (if negative then -n else n))

/-- A number behind its sign; `start` is the text from the sign on. -/
def unsigned (start : List Char) (negative : Bool) (cs : List Char) : Read Value :=
  match wholeDigits cs with
  | ([], _) => .error (.malformed "Expecting value" start)
  | (whole, rest) =>
    let (fraction, rest) := fractionDigits rest
    let decimal (e : Int) : Value :=
      .double (Double.ofDecimal negative (digitsValue (whole ++ fraction)) (e - fraction.length))
    match exponent? rest with
    | some (e, rest) => .ok (decimal e, rest)
    | none =>
      if fraction.isEmpty then (integer negative whole).map fun v => (v, rest)
      else .ok (decimal 0, rest)

def number : List Char → Read Value
  | '-' :: rest => unsigned ('-' :: rest) true rest
  | cs => unsigned cs false cs

/-! ### Values -/

/-- The text behind a word that the text starts with. -/
def word? : List Char → List Char → Option (List Char)
  | [], cs => some cs
  | w :: ws, c :: cs => if w = c then word? ws cs else none
  | _ :: _, [] => none

def words : List (List Char × Value) := [
  ("null".toList, .null), ("true".toList, .bool true), ("false".toList, .bool false),
  ("NaN".toList, .double .nan), ("Infinity".toList, .double (.infinite false)),
  ("-Infinity".toList, .double (.infinite true))]

def wordOrNumber (cs : List Char) : Read Value :=
  match words.findSome? fun w => (word? w.1 cs).map fun rest => (w.2, rest) with
  | some r => .ok r
  | none => number cs

mutual

/-- A value, with no blanks before it. -/
def value : (fuel : Nat) → List Char → Except Error (Value × List Char)
  | 0, cs => .error (.malformed "Expecting value" cs)
  | fuel + 1, cs =>
    match cs with
    | '"' :: rest => (stringBody cs rest).map fun r => (.string (.ofPoints r.1), r.2)
    | '\x7b' :: rest =>
      match skipBlanks rest with
      | '\x7d' :: rest => .ok (.object [], rest)
      | rest => (members fuel rest []).map fun r => (.object r.1, r.2)
    | '[' :: rest =>
      match skipBlanks rest with
      | ']' :: rest => .ok (.list [], rest)
      | rest => (elements fuel rest).map fun r => (.list r.1, r.2)
    | cs => wordOrNumber cs

/-- The elements of an array up to its closing bracket, which is passed. -/
def elements : (fuel : Nat) → List Char → Except Error (List Value × List Char)
  | 0, cs => .error (.malformed "Expecting value" cs)
  | fuel + 1, cs => do
    let (v, rest) ← value fuel cs
    match skipBlanks rest with
    | ']' :: rest => return ([v], rest)
    | ',' :: rest =>
      let (vs, rest) ← elements fuel (skipBlanks rest)
      return (v :: vs, rest)
    | rest => throw (.malformed "Expecting ',' delimiter" rest)

/-- The members of an object, after some others, up to its closing brace, which is passed. -/
def members : (fuel : Nat) → List Char → Entries → Except Error (Entries × List Char)
  | 0, cs, _ => .error (.malformed "Expecting value" cs)
  | fuel + 1, cs, done =>
    match cs with
    | '"' :: rest => do
      let (name, rest) ← stringBody cs rest
      match skipBlanks rest with
      | ':' :: rest =>
        let (v, rest) ← value fuel (skipBlanks rest)
        let done := done.insert (.string (.ofPoints name)) v
        match skipBlanks rest with
        | '\x7d' :: rest => return (done, rest)
        | ',' :: rest => members fuel (skipBlanks rest) done
        | rest => throw (.malformed "Expecting ',' delimiter" rest)
      | rest => throw (.malformed "Expecting ':' delimiter" rest)
    | cs => .error (.malformed "Expecting property name enclosed in double quotes" cs)

end

/-- A whole text: one value, with blanks around it. -/
def document (cs : List Char) : Except Error Value :=
  match cs with
  | '\ufeff' :: _ => .error (.malformed "Unexpected UTF-8 BOM (decode using utf-8-sig)" cs)
  | cs => do
    let (v, rest) ← value (2 * cs.length + 2) (skipBlanks cs)
    match skipBlanks rest with
    | [] => return v
    | rest => throw (.malformed "Extra data" rest)

/-- A message with the line, the column and the number of characters before a position. -/
def located (text : List Char) (message : String) (rest : List Char) : String :=
  let before := text.take (text.length - rest.length)
  let line := before.count '\n' + 1
  let column := (before.reverse.takeWhile (· != '\n')).length + 1
  s!"{message}: line {line} column {column} (char {before.length})"

end JsonSchema.Json
