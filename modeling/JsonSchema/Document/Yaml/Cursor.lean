/-!
A place in a YAML text: what is left of it, and the line and column that it stands in.
-/

namespace JsonSchema.Yaml

/-! ### Characters -/

def isBreak (c : Char) : Bool :=
  c == '\n' || c == '\r' || c == '\x85' || c == '\u2028' || c == '\u2029'

/-- The end of the text, or a character that ends a line. -/
def endsLine : Option Char → Bool
  | none => true
  | some c => isBreak c

def endsWord : Option Char → Bool
  | none => true
  | some c => c == ' ' || isBreak c

def isGap : Option Char → Bool
  | none => true
  | some c => c == ' ' || c == '\t' || isBreak c

/-- Characters of anchors, handles and directive names. -/
def isNameChar (c : Char) : Bool := c.isAlphanum || c == '-' || c == '_'

def isHexDigit (c : Char) : Bool :=
  c.isDigit || ('a' ≤ c && c ≤ 'f') || ('A' ≤ c && c ≤ 'F')

/-- Characters that a text may hold at all. -/
def isAllowed (c : Char) : Bool :=
  let n := c.toNat
  n == 9 || n == 10 || n == 13 || (0x20 ≤ n && n ≤ 0x7e) || n == 0x85
    || (0xa0 ≤ n && n ≤ 0xd7ff) || (0xe000 ≤ n && n ≤ 0xfffd) || 0x10000 ≤ n

/-! ### Cursors -/

structure Cursor where
  rest : List Char
  index : Nat
  line : Nat
  column : Nat
  deriving Repr

namespace Cursor

def ofChars (cs : List Char) : Cursor := ⟨cs, 0, 0, 0⟩

def peek? (c : Cursor) : Option Char := c.rest.head?

def peekAt? (c : Cursor) (n : Nat) : Option Char := c.rest[n]?

def isAt (c : Cursor) (ch : Char) : Bool := c.peek? == some ch

/-- Passes one character. The first half of a two character line end and a byte order mark do not
count as a new line or column. -/
def next (c : Cursor) : Cursor :=
  match c.rest with
  | [] => c
  | ch :: rest =>
    if ch == '\r' && rest.head? == some '\n' then ⟨rest, c.index + 1, c.line, c.column + 1⟩
    else if isBreak ch then ⟨rest, c.index + 1, c.line + 1, 0⟩
    else if ch == '\ufeff' then ⟨rest, c.index + 1, c.line, c.column⟩
    else ⟨rest, c.index + 1, c.line, c.column + 1⟩

def skip : Nat → Cursor → Cursor
  | 0, c => c
  | n + 1, c => skip n c.next

def takeWhile (c : Cursor) (test : Char → Bool) : List Char × Cursor :=
  let taken := c.rest.takeWhile test
  (taken, c.skip taken.length)

def skipWhile (c : Cursor) (test : Char → Bool) : Cursor := (c.takeWhile test).2

def skipSpaces (c : Cursor) : Cursor := c.skipWhile (· == ' ')

/-- Passes spaces as long as they stand left of a column. -/
def skipSpacesTo (c : Cursor) (column : Nat) : Cursor :=
  c.skip (min (column - c.column) (c.rest.takeWhile (· == ' ')).length)

/-- Passes the end of a line; most ends are written as a line feed. -/
def lineBreak? (c : Cursor) : Option (Char × Cursor) :=
  match c.rest with
  | '\r' :: '\n' :: _ => some ('\n', c.skip 2)
  | ch :: _ =>
    if ch == '\u2028' || ch == '\u2029' then some (ch, c.next)
    else if isBreak ch then some ('\n', c.next)
    else none
  | [] => none

def skipComment (c : Cursor) : Cursor :=
  if c.isAt '#' then c.skipWhile (fun ch => !isBreak ch) else c

/-- Whether three characters of one kind stand here, and a gap behind them. -/
def isMarker (c : Cursor) (ch : Char) : Bool :=
  match c.rest with
  | x :: y :: z :: rest => x == ch && y == ch && z == ch && isGap rest.head?
  | _ => false

def isSeparator (c : Cursor) : Bool := c.isMarker '-' || c.isMarker '.'

end Cursor

/-- Why a text is no YAML. Wording is left out. -/
inductive Defect where
  /-- The text breaks the rules of the format. -/
  | malformed
  /-- A character is escaped by a number that no character has. -/
  | noCharacter
  /-- A character is escaped by a number beyond all that are looked at. -/
  | hugeCharacter
  /-- The number of a version has too many digits. -/
  | tooManyDigits
  deriving DecidableEq, Repr

end JsonSchema.Yaml
