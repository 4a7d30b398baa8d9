import JsonSchema.Regex.Token

/-!
The state of reading a pattern, and the steps of reading that all of its grammar shares.
-/

namespace JsonSchema.Regex

/-- What is known while a pattern is read. `widths` holds, for each group from the whole pattern
on, the least and greatest length of what it matches, once it is closed. `conditions` holds the
group numbers that conditions ask about, with the position of the first question. -/
structure ReaderState where
  source : Source
  flags : Flags
  names : List (Text × Nat)
  widths : List (Option (Nat × Nat))
  lookbehindGroups : Option Nat
  conditions : List (Nat × Nat)

/-- Reading steps over a pattern of the given length. -/
abbrev Reader := ReaderT Nat (StateT ReaderState (Except Error))

namespace Reader

def next? : Reader (Option Token) := return (← get).source.next?

def nextIs (c : Char) : Reader Bool := return (← get).source.nextIs c

def nextIsOneOf (cs : List Char) : Reader Bool := return (← get).source.nextIsOneOf cs

def tell : Reader Nat := return (← read) - (← get).source.width

def failAt {α : Type} (reason : Text) (position : Option Nat) : Reader α :=
  throw (.malformed reason position)

/-- An error `back` characters before the next token. -/
def fail {α : Type} (reason : Text) (back : Nat) : Reader α := do
  failAt reason (some ((← tell) - back))

/-- A pattern may not end in a single backslash. -/
def checkDangling : Reader Unit := do
  if (← get).source.isDangling then
    failAt "bad escape (end of pattern)" (some ((← read) - 1))

def setSource (source : Source) : Reader Unit := do
  modify fun s => { s with source := source }
  checkDangling

def advance : Reader (Option Token) := do
  let source := (← get).source
  match source.rest with
  | [] => return none
  | t :: rest =>
    setSource { source with rest := rest }
    return some t

def accept (c : Char) : Reader Bool := do
  if ← nextIs c then
    let _ ← advance
    return true
  else return false

/-- Takes plain characters of a kind, up to some number of them. -/
def takeUpTo (test : Char → Bool) : Nat → Reader (List Char)
  | 0 => return []
  | n + 1 => do
    match ← next? with
    | some t =>
      if !t.escaped && test t.char then
        let _ ← advance
        return t.char :: (← takeUpTo test n)
      else return []
    | none => return []

/-- The text up to a closing character, which is taken too. -/
def takeUntilLoop (close : Char) (what : String) : Nat → List Point → Reader (List Point)
  | 0, _ => fail ("missing " ++ what) 0
  | fuel + 1, done => do
    match ← advance with
    | none =>
      if done.isEmpty then fail ("missing " ++ what) 0
      else fail ("missing " ++ close.toString ++ ", unterminated name") done.length
    | some t =>
      if t == .plain close then
        if done.isEmpty then fail ("missing " ++ what) 1 else return done
      else takeUntilLoop close what fuel (done ++ t.points)

def takeUntil (close : Char) (what : String) : Reader Text := do
  return .ofPoints (← takeUntilLoop close what ((← get).source.rest.length + 1) [])

/-! ### Groups -/

def groupCount : Reader Nat := return (← get).widths.length

/-- The lengths that a closed group matches. -/
def closedWidth? (index : Nat) : Reader (Option (Nat × Nat)) :=
  return ((← get).widths[index]?).join

def isClosed (index : Nat) : Reader Bool := return (← closedWidth? index).isSome

/-- Inside a lookbehind only groups closed before it may be referred to. -/
def checkLookbehind (index : Nat) : Reader Unit := do
  match (← get).lookbehindGroups with
  | none => return ()
  | some groups =>
    if !(← isClosed index) then fail "cannot refer to an open group" 0
    else if groups ≤ index then
      fail "cannot refer to group defined in the same lookbehind subpattern" 0

def named? (name : Text) : Reader (Option Nat) :=
  return ((← get).names.find? fun n => n.1 == name).map (·.2)

/-- Opens a group, under a name if it has one; `back` leads to the name for an error. -/
def openGroup (name : Option Text) : Reader Nat := do
  let index ← groupCount
  modify fun s => { s with widths := s.widths ++ [none] }
  match name with
  | none => return index
  | some n =>
    match ← named? n with
    | some earlier =>
      fail ("redefinition of group name " ++ Text.stringLiteral n
        ++ s!" as group {index}; was group {earlier}") (n.length + 1)
    | none =>
      modify fun s => { s with names := s.names ++ [(n, index)] }
      return index

def closeGroup (index : Nat) (width : Nat × Nat) : Reader Unit :=
  modify fun s => { s with widths := s.widths.set index (some width) }

end Reader

end JsonSchema.Regex
