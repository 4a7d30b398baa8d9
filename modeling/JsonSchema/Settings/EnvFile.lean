import JsonSchema.Text.Blank

/-!
Files of variables: one statement a line, a name and a value with an equals sign between.

A value may stand in quotes, and may then go over several lines. A hash sign starts a comment. A
value may refer to other variables. A line that is no statement is passed over and reported by its
number.
-/

namespace JsonSchema

namespace EnvFile

/-- Blank characters inside a line. -/
def isGap (c : Char) : Bool := Text.isBlank c && c != '\n' && c != '\r'

def isLineEnd (c : Char) : Bool := c == '\n' || c == '\r'

/-- What is read, and the text behind it, or the text from which on nothing could be read. -/
abbrev Read (α : Type) := Except (List Char) (α × List Char)

/-! ### Quoted values -/

/-- How many characters stand before the quote that closes a value: the first one without a
backslash before it, or else the last one. -/
def quotedLength (quote : Char) : List Char → Option Nat
  | [] => none
  | '\\' :: c :: rest =>
    if c == quote then some (((quotedLength quote rest).map (· + 2)).getD 1)
    else (quotedLength quote (c :: rest)).map (· + 1)
  | c :: rest => if c == quote then some 0 else (quotedLength quote rest).map (· + 1)

def controlEscape? (c : Char) : Option Char :=
  match c with
  | '\\' => some '\\'
  | '\'' => some '\''
  | '"' => some '"'
  | 'a' => some '\x07'
  | 'b' => some '\x08'
  | 'f' => some '\x0c'
  | 'n' => some '\n'
  | 'r' => some '\r'
  | 't' => some '\t'
  | 'v' => some '\x0b'
  | _ => none

/-- Inside of single quotes only the quote and the backslash are escaped. -/
def escape? (quote c : Char) : Option Char :=
  if quote == '"' || c == '\'' || c == '\\' then controlEscape? c else none

def unescape (quote : Char) : List Char → List Char
  | '\\' :: c :: rest =>
    match escape? quote c with
    | some e => e :: unescape quote rest
    | none => '\\' :: unescape quote (c :: rest)
  | c :: rest => c :: unescape quote rest
  | [] => []

def quotedValue (quote : Char) (cs : List Char) : Read (List Char) :=
  match quotedLength quote cs with
  | some n => .ok (unescape quote (cs.take n), cs.drop (n + 1))
  | none => .error cs

/-! ### Statements -/

/-- The text before a comment. A comment has a blank before its hash sign. -/
def beforeComment : List Char → List Char
  | [] => []
  | c :: rest =>
    if Text.isBlank c && (rest.dropWhile Text.isBlank).head? == some '#' then []
    else c :: beforeComment rest

def withoutEndBlanks (cs : List Char) : List Char :=
  (cs.reverse.dropWhile Text.isBlank).reverse

def unquotedValue (cs : List Char) : List Char × List Char :=
  let (line, rest) := cs.span fun c => !isLineEnd c
  (withoutEndBlanks (beforeComment line), rest)

/-- The value behind an equals sign and the blanks after it. -/
def value (cs : List Char) : Read (List Char) :=
  match cs with
  | '\'' :: rest => quotedValue '\'' rest
  | '"' :: rest => quotedValue '"' rest
  | cs => .ok (unquotedValue cs)

/-- A name, in single quotes or up to a blank, an equals sign or a hash sign. A comment has none. -/
def name? (cs : List Char) : Read (Option String) :=
  match cs with
  | '#' :: _ => .ok (none, cs)
  | '\'' :: rest =>
    match rest.span (· != '\'') with
    | ([], _) | (_, []) => .error cs
    | (name, _ :: rest) => .ok (some (String.ofList name), rest)
  | cs =>
    match cs.span fun c => !(c == '=' || c == '#' || Text.isBlank c) with
    | ([], _) => .error cs
    | (name, rest) => .ok (some (String.ofList name), rest)

/-- Passes a word that may stand before a name. -/
def skipExport (cs : List Char) : List Char :=
  match cs with
  | 'e' :: 'x' :: 'p' :: 'o' :: 'r' :: 't' :: c :: rest =>
    if isGap c then rest.dropWhile isGap else cs
  | cs => cs

/-- The end of a line, with a comment before it if there is one. -/
def lineEnd (cs : List Char) : Except (List Char) (List Char) :=
  let rest := cs.dropWhile isGap
  let rest := if rest.head? == some '#' then rest.dropWhile fun c => !isLineEnd c else rest
  match rest with
  | [] => .ok []
  | '\r' :: '\n' :: rest => .ok rest
  | c :: rest => if isLineEnd c then .ok rest else .error cs

/-- A name, and a value if there is an equals sign. -/
structure Statement where
  name : Option String
  value : Option (List Char)
  deriving Repr

def statement (cs : List Char) : Except (List Char) (Statement × List Char) := do
  let (name, rest) ← name? (skipExport cs)
  let rest := rest.dropWhile isGap
  match rest with
  | '=' :: rest =>
    let (v, rest) ← value (rest.dropWhile isGap)
    return (⟨name, some v⟩, ← lineEnd rest)
  | rest => return (⟨name, none⟩, ← lineEnd rest)

/-- What is left behind the line that the text starts in. -/
def skipLine (cs : List Char) : List Char := (cs.dropWhile fun c => !isLineEnd c).drop 1

/-! ### Texts -/

structure Content where
  statements : List Statement
  /-- The numbers of the lines that are no statements. -/
  unread : List Nat
  deriving Repr

/-- The statements of a text that goes on in a line. -/
def contentFrom : (fuel : Nat) → (line : Nat) → List Char → Content
  | 0, _, _ => ⟨[], []⟩
  | fuel + 1, line, cs =>
    let next (rest : List Char) : Content :=
      contentFrom fuel (line + (cs.take (cs.length - rest.length)).count '\n') rest
    match cs.dropWhile Text.isBlank with
    | [] => ⟨[], []⟩
    | start =>
      match statement start with
      | .ok (s, rest) =>
        let more := next rest
        { more with statements := s :: more.statements }
      | .error rest =>
        let more := next (skipLine rest)
        { more with unread := line :: more.unread }

def content (cs : List Char) : Content := contentFrom (cs.length + 1) 1 cs

/-! ### References -/

/-- A reference behind its dollar sign and brace: a name, perhaps a default, and the text behind
the closing brace. -/
def reference? (cs : List Char) : Option (String × Option (List Char) × List Char) :=
  match cs.span fun c => c != '\x7d' && c != ':' with
  | (name, '\x7d' :: rest) => some (String.ofList name, none, rest)
  | (name, ':' :: '-' :: rest) =>
    match rest.span (· != '\x7d') with
    | (default, _ :: rest) => some (String.ofList name, some default, rest)
    | (_, []) => none
  | _ => none

def resolve (find? : String → Option (List Char)) : (fuel : Nat) → List Char → List Char
  | 0, cs => cs
  | fuel + 1, cs =>
    match cs with
    | [] => []
    | '$' :: '\x7b' :: rest =>
      match reference? rest with
      | some (name, default, rest) =>
        ((find? name).or default).getD [] ++ resolve find? fuel rest
      | none => '$' :: resolve find? fuel ('\x7b' :: rest)
    | c :: rest => c :: resolve find? fuel rest

/-- Variables by name. One that is named without a value has none. -/
abbrev Variables := List (String × Option String)

namespace Variables

def get? (vs : Variables) (name : String) : Option (Option String) :=
  (List.find? (fun v => v.1 == name) vs).map (·.2)

/-- Sets a variable, in the place that its name already has. -/
def assign (vs : Variables) (name : String) (value : Option String) : Variables :=
  if vs.any (·.1 == name) then vs.map fun v => if v.1 == name then (name, value) else v
  else vs ++ [(name, value)]

end Variables

/-- The variables of statements. References go to variables before them, else to those given. -/
def assignments (given : Variables) (statements : List Statement) : Variables :=
  statements.foldl (fun done s =>
    match s.name with
    | none => done
    | some name =>
      let find? (n : String) : Option (List Char) :=
        match done.get? n with
        | some v => some ((v.getD "").toList)
        | none => (given.get? n).map fun v => (v.getD "").toList
      done.assign name (s.value.map fun v => String.ofList (resolve find? (v.length + 1) v))) []

end EnvFile

end JsonSchema
