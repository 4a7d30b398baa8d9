import JsonSchema.Document.Yaml.Cursor
import JsonSchema.Document.Json

/-!
The texts of scalars: plain, quoted, and as blocks of lines.

Inside a scalar, a single line end becomes a space and further ones stay, unless the scalar keeps
its lines.
-/

namespace JsonSchema.Yaml

abbrev Scanned := Except Defect (List Char × Cursor)

/-- A text that may hold halves of pairs, and the place behind it. -/
abbrev ScannedPoints := Except Defect (List Point × Cursor)

/-- What a line end and the empty lines after it become where lines are folded. -/
def folded (first : Char) (more : List Char) : List Char :=
  if first != '\n' then first :: more
  else if more.isEmpty then [' ']
  else more

/-! ### Quoted scalars -/

/-- Empty lines inside a quoted scalar, with the blanks before each; a document may not end
there. -/
def quotedBreaks : (fuel : Nat) → Cursor → Scanned
  | 0, c => .ok ([], c)
  | fuel + 1, c =>
    if c.isSeparator then .error .malformed
    else
      let c := c.skipWhile fun ch => ch == ' ' || ch == '\t'
      match c.lineBreak? with
      | some (br, c) => (quotedBreaks fuel c).map fun r => (br :: r.1, r.2)
      | none => .ok ([], c)

/-- Blanks inside a quoted scalar, with the line ends among them folded. -/
def quotedBlanks (c : Cursor) : Scanned :=
  let (blanks, c) := c.takeWhile fun ch => ch == ' ' || ch == '\t'
  match c.peek?, c.lineBreak? with
  | none, _ => .error .malformed
  | some _, some (br, c) =>
    (quotedBreaks (c.rest.length + 1) c).map fun r => (folded br r.1, r.2)
  | some _, none => .ok (blanks, c)

def controlEscape? (ch : Char) : Option Char :=
  match ch with
  | '0' => some '\x00'
  | 'a' => some '\x07'
  | 'b' => some '\x08'
  | 't' | '\t' => some '\t'
  | 'n' => some '\n'
  | 'v' => some '\x0b'
  | 'f' => some '\x0c'
  | 'r' => some '\r'
  | 'e' => some '\x1b'
  | ' ' => some ' '
  | '"' => some '"'
  | '\\' => some '\\'
  | '/' => some '/'
  | 'N' => some '\x85'
  | '_' => some '\xa0'
  | 'L' => some '\u2028'
  | 'P' => some '\u2029'
  | _ => none

/-- How many hexadecimal digits follow a letter behind a backslash. -/
def codeLength? (ch : Char) : Option Nat :=
  match ch with
  | 'x' => some 2
  | 'u' => some 4
  | 'U' => some 8
  | _ => none

def hexNumber (ds : List Char) : Nat :=
  ds.foldl (fun n d => n * 16 + (Json.hexValue? d).getD 0) 0

def greatestCode : Nat := 0x7fffffff

/-- A code point by its number. Halves of a pair stay apart. -/
def numberedPoint (length : Nat) (c : Cursor) : Except Defect (Point × Cursor) :=
  let digits := c.rest.take length
  if digits.length < length || !digits.all isHexDigit then .error .malformed
  else
    let code := hexNumber digits
    if greatestCode < code then .error .hugeCharacter
    else if 0x10ffff < code then .error .noCharacter
    else .ok (.ofCode code, c.skip length)

def escaped (c : Cursor) : ScannedPoints :=
  match c.peek? with
  | none => .error .malformed
  | some ch =>
    match controlEscape? ch, codeLength? ch, c.lineBreak? with
    | some e, _, _ => .ok ([.char e], c.next)
    | none, some length, _ => (numberedPoint length c.next).map fun r => ([r.1], r.2)
    | none, none, some (_, c) =>
      (quotedBreaks (c.rest.length + 1) c).map fun r => (Text.plain r.1, r.2)
    | none, none, none => .error .malformed

/-- The text of a quoted scalar up to its closing quote, which is passed. -/
def quotedText (quote : Char) : (fuel : Nat) → Cursor → ScannedPoints
  | 0, _ => .error .malformed
  | fuel + 1, c =>
    match c.peek? with
    | none => .error .malformed
    | some ch =>
      if ch == quote then
        if quote == '\'' && c.peekAt? 1 == some '\'' then
          (quotedText quote fuel (c.skip 2)).map fun r => (.char '\'' :: r.1, r.2)
        else .ok ([], c.next)
      else do
        let (text, c) ← if ch == '\\' && quote == '"' then escaped c.next
          else if ch == ' ' || ch == '\t' || isBreak ch then
            (quotedBlanks c).map fun r => (Text.plain r.1, r.2)
          else pure ([.char ch], c.next)
        let (more, c) ← quotedText quote fuel c
        return (text ++ more, c)

/-! ### Plain scalars -/

/-- Whether a plain scalar ends at a character, given the one behind it. -/
def endsPlain (inFlow : Bool) (ch : Char) (after : Option Char) : Bool :=
  isGap (some ch)
    || (ch == ':' && (isGap after
      || (inFlow && after.any fun a => [',', '[', ']', '\x7b', '\x7d'].contains a)))
    || (inFlow && [',', '?', '[', ']', '\x7b', '\x7d'].contains ch)

def plainLength (inFlow : Bool) : List Char → Nat
  | [] => 0
  | ch :: rest => if endsPlain inFlow ch rest.head? then 0 else plainLength inFlow rest + 1

/-- Further line ends after a first one, with spaces between; none if a document ends there. -/
def plainBreaks : (fuel : Nat) → Cursor → Option (List Char) × Cursor
  | 0, c => (some [], c)
  | fuel + 1, c =>
    if c.isAt ' ' then plainBreaks fuel c.next
    else match c.lineBreak? with
      | none => (some [], c)
      | some (br, c) =>
        if c.isSeparator then (none, c)
        else
          let (more, c) := plainBreaks fuel c
          (more.map (br :: ·), c)

/-- Blanks behind a word of a plain scalar: their text, whether a line ended among them, and the
place behind them. There is no text where a document ends. -/
def plainBlanks (c : Cursor) : List Char × Bool × Cursor :=
  let (spaces, c) := c.takeWhile (· == ' ')
  match c.lineBreak? with
  | none => (spaces, false, c)
  | some (br, c) =>
    if c.isSeparator then ([], true, c)
    else
      match plainBreaks (c.rest.length + 1) c with
      | (some breaks, c) => (folded br breaks, true, c)
      | (none, c) => ([], true, c)

/-- A plain scalar, whether it went over the end of a line, and the place behind it. -/
structure Plain where
  text : List Char
  crossedLine : Bool
  behind : Cursor

/-- The words of a plain scalar, each with the blanks before it. -/
def plainText (inFlow : Bool) (indent : Int) : (fuel : Nat) → (blanks : List Char) →
    (crossed : Bool) → Cursor → Plain
  | 0, _, crossed, c => ⟨[], crossed, c⟩
  | fuel + 1, blanks, crossed, c =>
    let length := plainLength inFlow c.rest
    if c.isAt '#' || length = 0 then ⟨[], crossed, c⟩
    else
      let word := c.rest.take length
      let (next, brk, c) := plainBlanks (c.skip length)
      if next.isEmpty || c.isAt '#' || (!inFlow && (c.column : Int) < indent) then
        ⟨blanks ++ word, brk, c⟩
      else
        let more := plainText inFlow indent fuel next brk c
        ⟨blanks ++ word ++ more.text, more.crossedLine, more.behind⟩

/-! ### Block scalars -/

/-- What becomes of the line ends at the end of a block. -/
inductive Chomping where
  | clip
  | strip
  | keep
  deriving DecidableEq

def chompingOf? (ch : Option Char) : Option Chomping :=
  match ch with
  | some '+' => some .keep
  | some '-' => some .strip
  | _ => none

/-- An indentation of one digit that is not zero. -/
def indentationOf? (ch : Option Char) : Option Nat :=
  ch.bind fun d => if d.isDigit then some (d.toNat - 48) else none

/-- The header of a block: how it ends, and how far it is indented, in either order. -/
def blockHeader (c : Cursor) : Except Defect (Chomping × Option Nat × Cursor) := do
  let (chomping, increment, c) := match chompingOf? c.peek?, indentationOf? c.peek? with
    | some ch, _ =>
      match indentationOf? c.next.peek? with
      | some n => (ch, some n, c.skip 2)
      | none => (ch, none, c.next)
    | none, some n =>
      match chompingOf? c.next.peek? with
      | some ch => (ch, some n, c.skip 2)
      | none => (.clip, some n, c.next)
    | none, none => (.clip, none, c)
  if increment == some 0 || !endsWord c.peek? then throw .malformed
  let c := c.skipSpaces.skipComment
  if !endsLine c.peek? then throw .malformed
  return (chomping, increment, ((c.lineBreak?).map (·.2)).getD c)

/-- Empty lines before the first line of a block, and the deepest column that spaces reach. -/
def leadingLines : (fuel : Nat) → (deepest : Nat) → Cursor → List Char × Nat × Cursor
  | 0, deepest, c => ([], deepest, c)
  | fuel + 1, deepest, c =>
    if c.isAt ' ' then leadingLines fuel (max deepest c.next.column) c.next
    else match c.lineBreak? with
      | some (br, c) =>
        let (more, deepest, c) := leadingLines fuel deepest c
        (br :: more, deepest, c)
      | none => ([], deepest, c)

/-- Empty lines between the lines of a block, up to its indentation. -/
def emptyLines (indent : Nat) : (fuel : Nat) → Cursor → List Char × Cursor
  | 0, c => ([], c)
  | fuel + 1, c =>
    let c := c.skipSpacesTo indent
    match c.lineBreak? with
    | some (br, c) =>
      let (more, c) := emptyLines indent fuel c
      (br :: more, c)
    | none => ([], c)

def isBlankStart (c : Cursor) : Bool := c.isAt ' ' || c.isAt '\t'

/-- The lines of a block. `gap` holds the empty lines before the line that comes next. -/
def blockLines (fold : Bool) (chomping : Chomping) (indent : Nat) :
    (fuel : Nat) → (gap : List Char) → (lastBreak : List Char) → Cursor → List Char × Cursor
  | 0, _, _, c => ([], c)
  | fuel + 1, gap, lastBreak, c =>
    if c.column = indent ∧ c.peek?.isSome then
      let spaced := isBlankStart c
      let (line, c) := c.takeWhile fun ch => !isBreak ch
      let (brk, c) := match c.lineBreak? with
        | some (br, c) => ([br], c)
        | none => ([], c)
      let (next, c) := emptyLines indent (c.rest.length + 1) c
      if c.column = indent ∧ c.peek?.isSome then
        let join := if fold && brk == ['\n'] && !spaced && !isBlankStart c then
            if next.isEmpty then [' '] else []
          else brk
        let (more, c) := blockLines fold chomping indent fuel next brk c
        (gap ++ line ++ join ++ more, c)
      else
        let (more, c) := blockLines fold chomping indent fuel next brk c
        (gap ++ line ++ more, c)
    else
      let tail := match chomping with
        | .strip => []
        | .clip => lastBreak
        | .keep => lastBreak ++ gap
      (tail, c)

/-- A block scalar behind its sign, inside blocks that are indented by `parent`. -/
def blockText (fold : Bool) (parent : Int) (c : Cursor) : Scanned := do
  let (chomping, increment, c) ← blockHeader c
  let least := (max (parent + 1) 1).toNat
  let fuel := c.rest.length + 1
  let (gap, indent, c) := match increment with
    | some n =>
      let indent := least + n - 1
      let (gap, c) := emptyLines indent fuel c
      (gap, indent, c)
    | none =>
      let (gap, deepest, c) := leadingLines fuel 0 c
      (gap, max least deepest, c)
  return blockLines fold chomping indent (fuel + 1) gap [] c

end JsonSchema.Yaml
