import JsonSchema.Regex.Syntax
import JsonSchema.Text.Blank
import JsonSchema.Text.DecimalDigit
import JsonSchema.Text.LetterCase
import JsonSchema.Text.WordChar

/-!
Single characters in patterns: classes, sets, and matching without regard to case.

Without regard to case, a character is first put into lower case, and then compared with the
lower case of what the pattern holds and with the few further letters of the same upper case.
-/

namespace JsonSchema.Regex

namespace Category

/-- Whether a character is of a category; no half of a pair is of any. -/
def contains (category : Category) (ascii : Bool) (p : Point) : Bool :=
  let c := p.shown
  match category, ascii with
  | digit, true => c.isDigit
  | digit, false => Text.isDecimal c
  | space, true => Text.isAsciiBlank c
  | space, false => Text.isBlank c
  | word, true => Text.isAsciiWord c
  | word, false => Text.isWord c

end Category

/-! ### Case -/

/-- Lower case letters that share their upper case with others. -/
def sharedUpperCase : List (List Nat) := [
  [0x69, 0x131], [0x73, 0x17f], [0xb5, 0x3bc], [0x345, 0x3b9, 0x1fbe], [0x390, 0x1fd3],
  [0x3b0, 0x1fe3], [0x3b2, 0x3d0], [0x3b5, 0x3f5], [0x3b8, 0x3d1], [0x3ba, 0x3f0],
  [0x3c0, 0x3d6], [0x3c1, 0x3f1], [0x3c2, 0x3c3], [0x3c6, 0x3d5], [0x432, 0x1c80],
  [0x434, 0x1c81], [0x43e, 0x1c82], [0x441, 0x1c83], [0x442, 0x1c84, 0x1c85],
  [0x44a, 0x1c86], [0x463, 0x1c87], [0x1c88, 0xa64b], [0x1e61, 0x1e9b], [0xfb05, 0xfb06]]

/-- A lower case letter with all that share its upper case. -/
def caseClass (code : Nat) : List Nat :=
  (sharedUpperCase.find? fun cls => cls.contains code).getD [code]

def lowerCode (code : Nat) : Nat :=
  if code.isValidChar then (Text.toLower (Char.ofNat code)).toNat else code

def upperCode (code : Nat) : Nat :=
  if code.isValidChar then (Text.toUpper (Char.ofNat code)).toNat else code

def asciiLowerCode (code : Nat) : Nat := if 65 ≤ code ∧ code ≤ 90 then code + 32 else code

/-- All code points whose lower case is the given one. -/
def lowerSources (lower : Nat) : List Nat :=
  lower :: Text.lowerRanges.toList.filterMap fun r =>
    let source := (lower : Int) - r.shift
    if 0 ≤ source ∧ r.contains source.toNat then some source.toNat else none

/-- The end of the first plane; ranges beyond it are compared in both cases. -/
def firstPlane : Nat := 0xffff

/-- Whether a lower case letter is the lower case of something between two code points. -/
def rangeHasLower (first last code : Nat) : Bool :=
  (caseClass code).any (fun lower => (lowerSources lower).any fun source =>
    lowerCode source == lower && first ≤ source && source ≤ min last firstPlane)
  || (firstPlane < last
    && (first ≤ code && code ≤ last || first ≤ upperCode code && upperCode code ≤ last))

namespace ClassItem

def contains (item : ClassItem) (ascii : Bool) (p : Point) : Bool :=
  match item with
  | char code => p.code == code
  | range first last => first ≤ p.code && p.code ≤ last
  | category k negated => k.contains ascii p != negated

/-- Membership of a character that was put into lower case. -/
def containsLower (item : ClassItem) (ascii : Bool) (lower : Point) : Bool :=
  let code := lower.code
  match item, ascii with
  | char x, true => code == asciiLowerCode x
  | char x, false =>
    if x ≤ firstPlane then (caseClass (lowerCode x)).contains code else code == x
  | range first last, true =>
    (first ≤ code && code ≤ last && asciiLowerCode code == code)
      || (97 ≤ code && code ≤ 122 && first ≤ code - 32 && code - 32 ≤ last)
  | range first last, false => rangeHasLower first last code
  | category k negated, _ => k.contains ascii lower != negated

end ClassItem

/-- Lower case as far as the flags regard scripts. -/
def foldCase (flags : Flags) : Point → Point
  | .char c => if flags.ascii then c.toLower else Text.toLower c
  | .half h => .half h

def charMatches (flags : Flags) (code : Nat) (p : Point) : Bool :=
  if !flags.ignoreCase then p.code == code
  else if flags.ascii then (foldCase flags p).code == asciiLowerCode code
  else (caseClass (lowerCode code)).contains (foldCase flags p).code

def setMatches (flags : Flags) (negated : Bool) (items : List ClassItem) (p : Point) : Bool :=
  if !flags.ignoreCase then items.any (·.contains flags.ascii p) != negated
  else items.any (·.containsLower flags.ascii (foldCase flags p)) != negated

def anyMatches (flags : Flags) (p : Point) : Bool := flags.dotAll || p != .char '\n'

end JsonSchema.Regex
