import JsonSchema.Document.Yaml.Token

/-!
Cutting a YAML text into tokens.

Blocks open and close with the indentation. A colon makes a key of what stands before it on the
line, so a token that may turn out to start a key is remembered. The signs that open a key are
kept with the token that they stand before, and are laid out at the end.
-/

namespace JsonSchema.Yaml

/-- A token that may start a key: its number, its place, and whether it has to start one. -/
structure PossibleKey where
  token : Nat
  required : Bool
  index : Nat
  line : Nat
  column : Nat
  deriving Repr

/-- A token with the signs that stand before it. -/
abbrev Slot := List Token × Token

structure Lexer where
  cursor : Cursor
  slots : Array Slot
  /-- How many flow collections are open. -/
  flow : Int
  indent : Int
  outer : List Int
  /-- Whether a key may start at the next token. -/
  keyAllowed : Bool
  keys : List (Int × PossibleKey)
  deriving Repr

/-- The longest key that is not marked as one. -/
def keyLimit : Nat := 1024

namespace Lexer

def ofChars (cs : List Char) : Lexer := ⟨.ofChars cs, #[], 0, -1, [], true, []⟩

def emit (l : Lexer) (t : Token) : Lexer := { l with slots := l.slots.push ([], t) }

def at_ (l : Lexer) (c : Cursor) : Lexer := { l with cursor := c }

def isInFlow (l : Lexer) : Bool := l.flow != 0

/-! ### Possible keys -/

/-- A key has to be on one line, and short. -/
def isStale (l : Lexer) (k : PossibleKey) : Bool :=
  k.line != l.cursor.line || keyLimit < l.cursor.index - k.index

def dropStaleKeys (l : Lexer) : Except Defect Lexer :=
  if l.keys.any fun k => k.2.required && l.isStale k.2 then .error .malformed
  else .ok { l with keys := l.keys.filter fun k => !l.isStale k.2 }

def possibleKey? (l : Lexer) : Option PossibleKey :=
  (l.keys.find? fun k => k.1 == l.flow).map (·.2)

def forgetKey (l : Lexer) : Lexer := { l with keys := l.keys.filter fun k => k.1 != l.flow }

/-- Forgets the possible key of this level, which then may not be a required one. -/
def dropKey (l : Lexer) : Except Defect Lexer :=
  if (l.possibleKey?).any (·.required) then .error .malformed else .ok l.forgetKey

def saveKey (l : Lexer) : Except Defect Lexer :=
  if l.keyAllowed then do
    let required := !l.isInFlow && l.indent == l.cursor.column
    let l ← l.dropKey
    let key := ⟨l.slots.size, required, l.cursor.index, l.cursor.line, l.cursor.column⟩
    return { l with keys := (l.flow, key) :: l.keys }
  else .ok l

/-! ### Indentation -/

def closeBlocks (column : Int) : (outer : List Int) → Lexer → Lexer
  | [], l => l
  | i :: outer, l =>
    if column < l.indent then
      closeBlocks column outer ({ l with indent := i, outer := outer }.emit .blockEnd)
    else l

def unwind (l : Lexer) (column : Int) : Lexer :=
  if l.isInFlow then l else closeBlocks column l.outer l

def indentTo? (l : Lexer) (column : Int) : Option Lexer :=
  if l.indent < column then some { l with outer := l.indent :: l.outer, indent := column }
  else none

/-! ### Tokens -/

def sign (l : Lexer) (t : Token) (length : Nat) : Lexer :=
  (l.at_ (l.cursor.skip length)).emit t

/-- Emits what was read, behind which no key may start. -/
def content (l : Lexer) (read : Except Defect (Token × Cursor)) : Except Defect Lexer := do
  let (t, c) ← read
  return { (l.at_ c).emit t with keyAllowed := false }

/-- The marks between documents and before them. -/
def marker (l : Lexer) (t : Token) : Except Defect Lexer := do
  let l ← (l.unwind (-1)).dropKey
  return { l.sign t 3 with keyAllowed := false }

def directive (l : Lexer) : Except Defect Lexer := do
  let l ← (l.unwind (-1)).dropKey
  l.content (directiveToken l.cursor.next)

def flowStart (l : Lexer) (t : Token) : Except Defect Lexer := do
  let l ← l.saveKey
  return { l.sign t 1 with flow := l.flow + 1, keyAllowed := true }

def flowEnd (l : Lexer) (t : Token) : Except Defect Lexer := do
  let l ← l.dropKey
  return { l.sign t 1 with flow := l.flow - 1, keyAllowed := false }

def flowEntry (l : Lexer) : Except Defect Lexer := do
  let l ← l.dropKey
  return { l.sign .flowEntry 1 with keyAllowed := true }

/-- Opens a block at this column if it is deeper; outside of flow collections a block starts only
where a key may. -/
def openBlock (l : Lexer) (t : Token) : Except Defect Lexer :=
  if l.isInFlow then .ok l
  else if !l.keyAllowed then .error .malformed
  else match l.indentTo? l.cursor.column with
    | some l => .ok (l.emit t)
    | none => .ok l

def blockEntry (l : Lexer) : Except Defect Lexer := do
  let l ← l.openBlock .blockSequenceStart
  let l ← l.dropKey
  return { l.sign .blockEntry 1 with keyAllowed := true }

def keySign (l : Lexer) : Except Defect Lexer := do
  let l ← l.openBlock .blockMappingStart
  let l ← l.dropKey
  return { l.sign .key 1 with keyAllowed := !l.isInFlow }

/-- A value: what was a possible key is one, and opens a block if it stands deeper. -/
def valueSign (l : Lexer) : Except Defect Lexer :=
  match l.possibleKey? with
  | some k =>
    let l := l.forgetKey
    let (signs, l) := match if l.isInFlow then none else l.indentTo? k.column with
      | some l => ([Token.blockMappingStart, .key], l)
      | none => ([Token.key], l)
    let l := { l with slots := l.slots.modify k.token fun s => (signs, s.2) }
    .ok { l.sign .value 1 with keyAllowed := false }
  | none => do
    let l ← l.openBlock .blockMappingStart
    let l ← { l with keyAllowed := !l.isInFlow }.dropKey
    return l.sign .value 1

def named (l : Lexer) (make : String → Token) : Except Defect Lexer := do
  let l ← l.saveKey
  l.content ((anchorName l.cursor.next).map fun r => (make r.1, r.2))

def tag (l : Lexer) : Except Defect Lexer := do
  let l ← l.saveKey
  l.content (tagToken l.cursor)

def block (l : Lexer) (fold : Bool) : Except Defect Lexer := do
  let l ← { l with keyAllowed := true }.dropKey
  let (text, c) ← blockText fold l.indent l.cursor.next
  return (l.at_ c).emit (.scalar (String.ofList text) false)

def quoted (l : Lexer) (quote : Char) : Except Defect Lexer := do
  let l ← l.saveKey
  let c := l.cursor.next
  l.content ((quotedText quote (c.rest.length + 1) c).map fun r =>
    (.scalar (.ofPoints r.1) false, r.2))

def plain (l : Lexer) : Except Defect Lexer := do
  let l ← l.saveKey
  let c := l.cursor
  let p := plainText l.isInFlow (l.indent + 1) (c.rest.length + 1) [] false c
  return { (l.at_ p.behind).emit (.scalar (String.ofList p.text) true) with
    keyAllowed := p.crossedLine }

def startsPlain (l : Lexer) (ch : Char) (after : Option Char) : Bool :=
  let special := "-?:,[]\x7b\x7d#&*!|>'\"%@".toList ++ ['\x60']
  (!isGap (some ch) && !special.contains ch)
    || (!isGap after && (ch == '-' || (!l.isInFlow && (ch == '?' || ch == ':'))))

def token (l : Lexer) (ch : Char) : Except Defect Lexer :=
  let c := l.cursor
  let after := c.peekAt? 1
  let gap := isGap after
  if c.column == 0 && ch == '%' then l.directive
  else if c.column == 0 && c.isMarker '-' then l.marker .documentStart
  else if c.column == 0 && c.isMarker '.' then l.marker .documentEnd
  else match ch with
    | '[' => l.flowStart .flowSequenceStart
    | '\x7b' => l.flowStart .flowMappingStart
    | ']' => l.flowEnd .flowSequenceEnd
    | '\x7d' => l.flowEnd .flowMappingEnd
    | ',' => l.flowEntry
    | '*' => l.named .alias
    | '&' => l.named .anchor
    | '!' => l.tag
    | '\'' => l.quoted '\''
    | '"' => l.quoted '"'
    | ch =>
      if ch == '-' && gap then l.blockEntry
      else if ch == '?' && (l.isInFlow || gap) then l.keySign
      else if ch == ':' && (l.isInFlow || gap) then l.valueSign
      else if ch == '|' && !l.isInFlow then l.block false
      else if ch == '>' && !l.isInFlow then l.block true
      else if l.startsPlain ch after then l.plain
      else .error .malformed

/-- Passes blanks, comments and line ends. Outside of flow collections a key may start on a new
line. -/
def skipToToken : (fuel : Nat) → Lexer → Lexer
  | 0, l => l
  | fuel + 1, l =>
    let c := if l.cursor.index = 0 && l.cursor.isAt '\ufeff' then l.cursor.next else l.cursor
    let c := c.skipSpaces.skipComment
    match c.lineBreak? with
    | some (_, c) =>
      skipToToken fuel { l.at_ c with keyAllowed := l.keyAllowed || !l.isInFlow }
    | none => l.at_ c

/-- Closes all blocks at the end of the text. -/
def finish (l : Lexer) : Except Defect Lexer := (l.unwind (-1)).dropKey

/-- Nothing more can be read. A token that may still start a key is not handed on before that is
settled, nor are those behind it. -/
def breakOff (l : Lexer) (d : Defect) : Lexer :=
  let undecided := (l.keys.filter fun k => !l.isStale k.2).map fun k => k.2.token
  { l with slots := l.slots.take (undecided.foldl min l.slots.size) }.emit (.broken d)

def run : (fuel : Nat) → Lexer → Lexer
  | 0, l => l
  | fuel + 1, start =>
    let l := skipToToken (start.cursor.rest.length + 1) start
    match l.dropStaleKeys with
    | .error d => start.breakOff d
    | .ok l =>
      let l := l.unwind l.cursor.column
      match l.cursor.peek? with
      | none =>
        match l.finish with
        | .ok l => l
        | .error d => start.breakOff d
      | some ch =>
        match l.token ch with
        | .ok l => run fuel l
        | .error d => start.breakOff d

end Lexer

/-- The tokens of a text, up to the first place where it is no YAML. -/
def Token.scan (cs : List Char) : List Token :=
  if cs.all isAllowed then
    let l := Lexer.run (cs.length + 1) (Lexer.ofChars cs)
    l.slots.toList.flatMap fun s => s.1 ++ [s.2]
  else [.broken .malformed]

end JsonSchema.Yaml
