import JsonSchema.Text.Literal

/-!
Regular expressions as trees, and the errors that their text can hold.

Characters are code points, because a pattern can escape points that are no characters, and a text
may hold them.
-/

namespace JsonSchema.Regex

/-! ### Flags -/

/-- The ways of matching that a pattern can switch on and off for a part of itself. -/
structure Flags where
  ignoreCase : Bool := false
  multiLine : Bool := false
  dotAll : Bool := false
  verbose : Bool := false
  ascii : Bool := false
  unicode : Bool := false
  template : Bool := false
  deriving DecidableEq, Repr, Inhabited

namespace Flags

def union (a b : Flags) : Flags where
  ignoreCase := a.ignoreCase || b.ignoreCase
  multiLine := a.multiLine || b.multiLine
  dotAll := a.dotAll || b.dotAll
  verbose := a.verbose || b.verbose
  ascii := a.ascii || b.ascii
  unicode := a.unicode || b.unicode
  template := a.template || b.template

def without (a b : Flags) : Flags where
  ignoreCase := a.ignoreCase && !b.ignoreCase
  multiLine := a.multiLine && !b.multiLine
  dotAll := a.dotAll && !b.dotAll
  verbose := a.verbose && !b.verbose
  ascii := a.ascii && !b.ascii
  unicode := a.unicode && !b.unicode
  template := a.template && !b.template

def overlaps (a b : Flags) : Bool :=
  a.ignoreCase && b.ignoreCase || a.multiLine && b.multiLine || a.dotAll && b.dotAll
    || a.verbose && b.verbose || a.ascii && b.ascii || a.unicode && b.unicode
    || a.template && b.template

/-- Whether the set of characters that classes range over is fixed. -/
def choosesScript (a : Flags) : Bool := a.ascii || a.unicode

/-- The flags inside a group that adds and removes some; a chosen script replaces the other. -/
def inGroup (outer add del : Flags) : Flags :=
  let base := if add.choosesScript then { outer with ascii := false, unicode := false } else outer
  (base.union add).without del

end Flags

/-! ### Trees -/

inductive Category where
  | digit
  | space
  | word
  deriving DecidableEq, Repr

inductive ClassItem where
  | char (code : Nat)
  | range (first last : Nat)
  | category (category : Category) (negated : Bool)
  deriving DecidableEq, Repr

inductive Anchor where
  | lineStart
  | lineEnd
  | textStart
  | textEnd
  | boundary
  | nonBoundary
  deriving DecidableEq, Repr

/-- How a repetition goes on: as long as it can, as short as it can, or as long as it can without
ever giving back. -/
inductive Greed where
  | greedy
  | lazy
  | possessive
  deriving DecidableEq, Repr

inductive Node where
  | empty
  | char (code : Nat)
  | notChar (code : Nat)
  | any
  | charSet (negated : Bool) (items : List ClassItem)
  | anchor (at_ : Anchor)
  | seq (first second : Node)
  | alt (first second : Node)
  | group (index : Option Nat) (add del : Flags) (body : Node)
  | atomic (body : Node)
  | rep (greed : Greed) (least : Nat) (most : Option Nat) (body : Node)
  | backref (index : Nat)
  | conditional (index : Nat) (yes no : Node)
  | lookahead (negated : Bool) (body : Node)
  | lookbehind (negated : Bool) (width : Nat) (body : Node)
  deriving Repr, Inhabited

/-- A pattern that was read: its tree, the flags it sets for all of itself, and how many groups
it has, the whole pattern among them. -/
structure Pattern where
  body : Node
  flags : Flags
  groups : Nat
  deriving Repr, Inhabited

/-! ### Errors -/

inductive Error where
  /-- The text is no pattern, for a reason that may have a position. -/
  | malformed (reason : Text) (position : Option Nat)
  /-- A number in the pattern is beyond what a repetition or a character can be. -/
  | tooLarge
  /-- The pattern asks for two scripts at once. -/
  | twoScripts
  deriving DecidableEq, Repr

/-- A reason with its position, and with line and column if the pattern has several lines. -/
def positioned (pattern : List Point) (reason : Text) (position : Nat) : Text :=
  let before := pattern.take position
  let line := before.count (.char '\n') + 1
  let column := (before.reverse.takeWhile (· != .char '\n')).length + 1
  let place := s!" at position {position}"
  if pattern.contains (.char '\n') then reason ++ place ++ s!" (line {line}, column {column})"
  else reason ++ place

end JsonSchema.Regex
