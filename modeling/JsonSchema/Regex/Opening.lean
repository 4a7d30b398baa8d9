import JsonSchema.Number.Reading
import JsonSchema.Regex.Escape
import JsonSchema.Text.Identifier
import JsonSchema.Text.Letter

/-!
What an opening parenthesis begins: a group of some kind, a comment, flags, or a condition.
-/

namespace JsonSchema.Regex

inductive Opening where
  | comment
  | globalFlags
  | namedReference (index : Nat)
  | capture (name : Option Text)
  | plain (add del : Flags)
  | atomic
  | look (behind negated : Bool)
  | condition (index : Nat)

def flagNamed? (c : Char) : Option Flags :=
  match c with
  | 'i' => some { ignoreCase := true }
  | 'm' => some { multiLine := true }
  | 's' => some { dotAll := true }
  | 'x' => some { verbose := true }
  | 'a' => some { ascii := true }
  | 'u' => some { unicode := true }
  | 't' => some { template := true }
  | _ => none

/-- The letters of flags; one of them no text pattern may use. -/
def isFlagLetter (c : Char) : Bool := c == 'L' || (flagNamed? c).isSome

def groupLimit : Nat := 1073741823

namespace Reader

def isLetter (t : Token) : Bool := !t.escaped && Text.isLetter t.char

def unexpectedEnd {α : Type} : Reader α := fail "unexpected end of pattern" 0

def checkGroupName (name : Text) : Reader Unit := do
  if !Text.isIdentifier name.chars then
    fail ("bad character in group name " ++ Text.stringLiteral name) (name.length + 1)

def unknownName {α : Type} (name : Text) : Reader α :=
  fail ("unknown group name " ++ Text.stringLiteral name) (name.length + 1)

def nameReference : Reader Opening := do
  let name ← takeUntil ')' "group name"
  checkGroupName name
  match ← named? name with
  | none => unknownName name
  | some index =>
    if !(← isClosed index) then fail "cannot refer to an open group" (name.length + 1)
    else
      checkLookbehind index
      return .namedReference index

def namedOpening : Reader Opening := do
  if ← accept '<' then
    let name ← takeUntil '>' "group name"
    checkGroupName name
    return .capture (some name)
  else if ← accept '=' then nameReference
  else
    match ← advance with
    | none => unexpectedEnd
    | some t => fail ("unknown extension ?P" ++ t.text) (t.width + 2)

def lookbehindOpening : Reader Opening := do
  match ← advance with
  | none => unexpectedEnd
  | some t =>
    if t == .plain '=' then return .look true false
    else if t == .plain '!' then return .look true true
    else fail ("unknown extension ?<" ++ t.text) (t.width + 2)

/-- Remembers where a condition first asked about a group number. -/
def noteCondition (index position : Nat) : Reader Unit :=
  modify fun s =>
    if s.conditions.any (·.1 == index) then s
    else { s with conditions := s.conditions ++ [(index, position)] }

/-- The group that a condition asks about, by name or by number. -/
def conditionOpening : Reader Opening := do
  let name ← takeUntil ')' "group name"
  if Text.isIdentifier name.chars then
    match ← named? name with
    | none => unknownName name
    | some index =>
      checkLookbehind index
      return .condition index
  else
    match readInteger 10 name.chars with
    | .ok (Int.ofNat index) =>
      if index = 0 then fail "bad group number" (name.length + 1)
      else if groupLimit ≤ index then fail s!"invalid group reference {index}" (name.length + 1)
      else
        noteCondition index ((← tell) - name.length - 1)
        checkLookbehind index
        return .condition index
    | _ =>
      fail ("bad character in group name " ++ Text.stringLiteral name) (name.length + 1)

/-- Passes over a comment that began at `start`. -/
def skipComment (start : Nat) : Nat → Reader Unit
  | 0 => failAt "missing ), unterminated comment" (some start)
  | fuel + 1 => do
    match ← advance with
    | none => failAt "missing ), unterminated comment" (some start)
    | some t => if t == .plain ')' then return () else skipComment start fuel

/-! ### Flags -/

/-- The flag of a letter, as far as text patterns may use it along with others. -/
def addFlag (flags : Flags) (c : Char) : Reader Flags := do
  match flagNamed? c with
  | none => fail "bad inline flags: cannot use 'L' flag with a str pattern" 0
  | some flag =>
    let all := flags.union flag
    if flag.choosesScript && all.ascii && all.unicode then
      fail "bad inline flags: flags 'a', 'u' and 'L' are incompatible" 0
    else return all

def notAFlag {α : Type} (t : Token) (missing : String) : Reader α :=
  fail (if isLetter t then "unknown flag" else missing) t.width

/-- Flags to switch on, and the token that ends them. -/
def addedFlags : Nat → Flags → Char → Reader (Flags × Char)
  | 0, flags, c => return (flags, c)
  | fuel + 1, flags, c => do
    let all ← addFlag flags c
    match ← advance with
    | none => fail "missing -, : or )" 0
    | some t =>
      if t.isOneOf [')', '-', ':'] then return (all, t.char)
      else if !t.escaped && isFlagLetter t.char then addedFlags fuel all t.char
      else notAFlag t "missing -, : or )"

/-- Flags to switch off, up to the colon. -/
def removedFlags : Nat → Flags → Char → Reader Flags
  | 0, flags, _ => return flags
  | fuel + 1, flags, c => do
    match flagNamed? c with
    | none => fail "bad inline flags: cannot turn off flags 'a', 'u' and 'L'" 0
    | some flag =>
      if flag.choosesScript then
        fail "bad inline flags: cannot turn off flags 'a', 'u' and 'L'" 0
      else
        let all := flags.union flag
        match ← advance with
        | none => fail "missing :" 0
        | some t =>
          if t == .plain ':' then return all
          else if !t.escaped && isFlagLetter t.char then removedFlags fuel all t.char
          else notAFlag t "missing :"

/-- Flags after a question mark, the first letter or the minus already taken. -/
def flagOpening (first : Char) : Reader Opening := do
  let fuel := (← get).source.rest.length + 2
  let (add, close) ← if first == '-' then pure ({}, '-') else addedFlags fuel {} first
  if close == ')' then
    modify fun s => { s with flags := s.flags.union add }
    return .globalFlags
  else if add.template then fail "bad inline flags: cannot turn on global flag" 1
  else if close == '-' then
    match ← advance with
    | none => fail "missing flag" 0
    | some t =>
      if !t.escaped && isFlagLetter t.char then
        let del ← removedFlags fuel {} t.char
        if del.template then fail "bad inline flags: cannot turn off global flag" 1
        else if add.overlaps del then fail "bad inline flags: flag turned on and off" 1
        else return .plain add del
      else notAFlag t "missing flag"
  else return .plain add {}

/-- What begins behind an opening parenthesis at `start`. -/
def opening (start : Nat) : Reader Opening := do
  if !(← accept '?') then return .capture none
  else
    match ← advance with
    | none => unexpectedEnd
    | some t =>
      let unknown : Reader Opening := fail ("unknown extension ?" ++ t.text) (t.width + 1)
      if t.escaped then unknown
      else match t.char with
        | 'P' => namedOpening
        | ':' => return .plain {} {}
        | '#' => do
          skipComment start ((← get).source.rest.length + 1)
          return .comment
        | '=' => return .look false false
        | '!' => return .look false true
        | '<' => lookbehindOpening
        | '(' => conditionOpening
        | '>' => return .atomic
        | c => if c == '-' || isFlagLetter c then flagOpening c else unknown

end Reader

end JsonSchema.Regex
