import JsonSchema.Terminal.Width
import JsonSchema.Text.Blank

/-!
Lines of text in a number of columns.

A line is broken before the first word that does not fit. A word that is longer than a line is
broken itself, or cut off with an ellipsis, as the place asks for.
-/

namespace JsonSchema.Terminal

/-- What becomes of a word that is longer than a line. -/
inductive Overflow where
  | fold
  | ellipsis
  deriving DecidableEq, Repr

/-! ### Words -/

def isBlank (p : Point) : Bool := Text.isBlank p.shown

/-- The words of a line, each with the blanks around it that no earlier word has. -/
def wordsFrom : (fuel : Nat) → List Point → List (List Point)
  | 0, _ => []
  | fuel + 1, ps =>
    let (before, rest) := ps.span isBlank
    let (word, rest) := rest.span fun p => !isBlank p
    let (after, rest) := rest.span isBlank
    if word.isEmpty then [] else (before ++ word ++ after) :: wordsFrom fuel rest

def words (ps : List Point) : List (List Point) := wordsFrom (ps.length + 1) ps

def withoutEndBlanks (ps : List Point) : List Point :=
  (ps.reverse.dropWhile isBlank).reverse

/-- Pieces of a text that fit into a number of columns each. -/
def chop (columns : Nat) : (used : Nat) → (piece : List Point) → List Point → List (List Point)
  | _, piece, [] => [piece.reverse]
  | used, piece, p :: rest =>
    if columns < used + pointWidth p then piece.reverse :: chop columns (pointWidth p) [p] rest
    else chop columns (used + pointWidth p) (p :: piece) rest

/-! ### Breaking lines -/

/-- Lines in reverse, the last one first, and the columns that the last one has used. -/
structure Filling where
  lines : List (List Point)
  used : Nat

namespace Filling

def empty : Filling := ⟨[[]], 0⟩

def extend (f : Filling) (ps : List Point) : List (List Point) :=
  match f.lines with
  | line :: rest => (line ++ ps) :: rest
  | [] => [ps]

/-- Starts a new line, unless the only one is still empty. -/
def newLine (f : Filling) (ps : List Point) : List (List Point) :=
  if f.lines == [[]] then [ps] else ps :: f.lines

def add (columns : Nat) (overflow : Overflow) (f : Filling) (word : List Point) : Filling :=
  let length := width (withoutEndBlanks word)
  if f.used + length ≤ columns then ⟨f.extend word, f.used + width word⟩
  else if columns < length then
    match overflow with
    | .ellipsis => ⟨f.newLine word, width word⟩
    | .fold =>
      (chop columns 0 [] word).foldl (fun f piece => ⟨f.newLine piece, width piece⟩) f
  else ⟨f.newLine word, width word⟩

end Filling

/-- The lines that a line is broken into. A line without words stays whole. -/
def breakLine (columns : Nat) (overflow : Overflow) (ps : List Point) : List (List Point) :=
  match words ps with
  | [] => [ps]
  | ws => ((ws.foldl (Filling.add columns overflow) .empty).lines).reverse

/-! ### Cutting lines -/

/-- Searches the longest start of a text that takes so many columns, between two lengths. Half of
a wide character shows as a blank. -/
def cutBetween (ps : List Point) (columns : Nat) : (fuel : Nat) → (low high : Nat) → List Point
  | 0, low, _ => ps.take low
  | fuel + 1, low, high =>
    let middle := (low + high) / 2
    let start := ps.take (middle + 1)
    let length := width start
    if length = columns + 1 ∧ (start.getLast?.map pointWidth) = some 2 then
      start.dropLast ++ blanks 1
    else if length = columns then start
    else if columns < length then cutBetween ps columns fuel low middle
    else cutBetween ps columns fuel middle high

def cut (columns : Nat) (ps : List Point) : List Point :=
  if columns = 0 then [] else cutBetween ps columns (ps.length + 1) 0 ps.length

/-- Drops blanks at the end as far as the text has more characters than there are columns. -/
def trimEnd (columns : Nat) (ps : List Point) : List Point :=
  let blanks := (ps.reverse.takeWhile isBlank).length
  ps.take (ps.length - min blanks (ps.length - columns))

/-- A line in at most so many columns. -/
def fit (columns : Nat) (overflow : Overflow) (ps : List Point) : List Point :=
  if width ps ≤ columns then ps
  else match overflow with
    | .fold => cut columns ps
    | .ellipsis => cut (columns - 1) ps ++ [.char '…']

/-! ### Tabs -/

def tabStop : Nat := 8

/-- Tabs as blanks up to the next stop, in a line of which some columns are used. -/
def expandTabs : (used : Nat) → List Point → List Point
  | _, [] => []
  | used, p :: rest =>
    if p = .char '\t' then
      let next := (used / tabStop + 1) * tabStop
      blanks (next - used) ++ expandTabs next rest
    else p :: expandTabs (used + pointWidth p) rest

/-! ### Texts -/

def splitLines : List Point → List (List Point)
  | [] => [[]]
  | p :: rest =>
    if p = .char '\n' then [] :: splitLines rest
    else match splitLines rest with
      | line :: more => (p :: line) :: more
      | [] => [[p]]

def wrap (columns : Nat) (overflow : Overflow) (ps : List Point) : List (List Point) :=
  (splitLines ps).flatMap fun line =>
    (breakLine columns overflow (expandTabs 0 line)).map fun l =>
      fit columns overflow (trimEnd columns l)

/-- Characters that end a line where the longest line of a text is looked for. -/
def endsMeasured (c : Char) : Bool :=
  c == '\n' || (28 ≤ c.toNat && c.toNat ≤ 30) || c == '\x85' || c == '\u2028' || c == '\u2029'

/-- The columns of the longest line of a text, given those used by its last line so far. -/
def longestLine : (used : Nat) → List Point → Nat
  | used, [] => used
  | used, p :: rest =>
    if endsMeasured p.shown then max used (longestLine 0 rest)
    else longestLine (used + pointWidth p) rest

def padTo (columns : Nat) (ps : List Point) : List Point := ps ++ blanks (columns - width ps)

def centered (columns : Nat) (ps : List Point) : List Point :=
  padTo columns (blanks ((columns - width ps) / 2) ++ ps)

end JsonSchema.Terminal
