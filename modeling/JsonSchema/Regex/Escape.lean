import JsonSchema.Regex.Reader
import JsonSchema.Text.CharName

/-!
Escapes in patterns: characters by number or name, classes, anchors and references to groups.
-/

namespace JsonSchema.Regex

def isOctal (c : Char) : Bool := '0' ≤ c && c ≤ '7'

def isHex (c : Char) : Bool := c.isDigit || ('a' ≤ c && c ≤ 'f') || ('A' ≤ c && c ≤ 'F')

def digitValue (c : Char) : Nat :=
  if c.isDigit then c.toNat - 48
  else if 'a' ≤ c then c.toNat - 97 + 10
  else c.toNat - 65 + 10

/-- The number that digits stand for in a base. -/
def numeral (base : Nat) (cs : List Char) : Nat :=
  cs.foldl (fun n c => n * base + digitValue c) 0

/-- Characters that stand for control characters when escaped, and the backslash. -/
def controlEscape? (c : Char) : Option Nat :=
  match c with
  | 'a' => some 7
  | 'b' => some 8
  | 'f' => some 12
  | 'n' => some 10
  | 'r' => some 13
  | 't' => some 9
  | 'v' => some 11
  | '\\' => some 92
  | _ => none

def categoryEscape? (c : Char) : Option ClassItem :=
  match c with
  | 'd' => some (.category .digit false)
  | 'D' => some (.category .digit true)
  | 's' => some (.category .space false)
  | 'S' => some (.category .space true)
  | 'w' => some (.category .word false)
  | 'W' => some (.category .word true)
  | _ => none

def anchorEscape? (c : Char) : Option Anchor :=
  match c with
  | 'A' => some .textStart
  | 'b' => some .boundary
  | 'B' => some .nonBoundary
  | 'Z' => some .textEnd
  | _ => none

namespace Reader

/-- A character by a fixed number of hexadecimal digits. -/
def hexCharacter (letter : Char) (count : Nat) : Reader Nat := do
  let digits ← takeUpTo isHex count
  if digits.length != count then
    fail ("incomplete escape \\" ++ String.ofList (letter :: digits)) (digits.length + 2)
  else return numeral 16 digits

def greatestCode : Nat := 0x7fffffff

/-- A character by eight hexadecimal digits, which has to exist. -/
def wideCharacter : Reader Nat := do
  let digits ← takeUpTo isHex 8
  let shown := "\\" ++ String.ofList ('U' :: digits)
  if digits.length != 8 then fail ("incomplete escape " ++ shown) (digits.length + 2)
  else
    let code := numeral 16 digits
    if greatestCode < code then throw .tooLarge
    else if 0x10ffff < code then fail ("bad escape " ++ shown) 10
    else return code

def namedCharacter : Reader Nat := do
  if !(← accept '\x7b') then fail "missing \x7b" 0
  else
    let name ← takeUntil '\x7d' "character name"
    match Text.charNamed? name.escaped with
    | some c => return c.toNat
    | none => fail ("undefined character name " ++ Text.stringLiteral name) (name.length + 4)

def octalTooLarge (digits : List Char) : Reader Nat :=
  fail ("octal escape value \\" ++ String.ofList digits ++ " outside of range 0-0o377")
    (digits.length + 1)

/-- The characters that are written the same way inside and outside of sets. -/
def commonEscape? (c : Char) : Option (Reader Nat) :=
  match c with
  | 'x' => some (hexCharacter 'x' 2)
  | 'u' => some (hexCharacter 'u' 4)
  | 'U' => some wideCharacter
  | 'N' => some namedCharacter
  | _ => none

/-- A character behind a backslash that has no meaning of its own stands for itself, unless it is
a letter of ASCII. -/
def selfEscape (p : Point) : Reader Nat :=
  if p.shown.isAlpha then fail ("bad escape \\" ++ p.shown.toString) 2 else return p.code

def setEscape (p : Point) : Reader ClassItem := do
  let c := p.shown
  match controlEscape? c, categoryEscape? c, commonEscape? c with
  | some code, _, _ => return .char code
  | none, some item, _ => return item
  | none, none, some code => return .char (← code)
  | none, none, none =>
    if isOctal c then
      let digits := c :: (← takeUpTo isOctal 2)
      let code := numeral 8 digits
      if 0o377 < code then return .char (← octalTooLarge digits) else return .char code
    else if c.isDigit then fail ("bad escape \\" ++ c.toString) 2
    else return .char (← selfEscape p)

def groupReference (digits : List Char) : Reader Node := do
  let index := numeral 10 digits
  if index < (← groupCount) then
    if !(← isClosed index) then fail "cannot refer to an open group" (digits.length + 1)
    else
      checkLookbehind index
      return .backref index
  else fail s!"invalid group reference {index}" digits.length

/-- Three octal digits are a character; one or two digits refer to a group. -/
def digitEscape (c : Char) : Reader Node := do
  match ← takeUpTo Char.isDigit 1 with
  | [] => groupReference [c]
  | second =>
    let digits := c :: second
    if digits.all isOctal && (← next?).any (fun t => !t.escaped && isOctal t.char) then
      let all := digits ++ (← takeUpTo isOctal 1)
      let code := numeral 8 all
      if 0o377 < code then return .char (← octalTooLarge all) else return .char code
    else groupReference digits

def escape (p : Point) : Reader Node := do
  let c := p.shown
  match anchorEscape? c, categoryEscape? c, controlEscape? c, commonEscape? c with
  | some at_, _, _, _ => return .anchor at_
  | none, some item, _, _ => return .charSet false [item]
  | none, none, some code, _ => return .char code
  | none, none, none, some code => return .char (← code)
  | none, none, none, none =>
    if c == '0' then return .char (numeral 8 (← takeUpTo isOctal 2))
    else if c.isDigit then digitEscape c
    else return .char (← selfEscape p)

end Reader

end JsonSchema.Regex
