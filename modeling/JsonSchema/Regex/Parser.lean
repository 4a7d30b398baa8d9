import JsonSchema.Regex.CharSet
import JsonSchema.Regex.Opening
import JsonSchema.Regex.Width
import JsonSchema.Text.Blank

/-!
Reading a pattern.

A pattern is a choice of sequences of items; an item is a character, a set, an anchor, a group or
the repetition of the item before it. Every call takes one unit of fuel for each token at most,
so twice the number of tokens suffices.
-/

namespace JsonSchema.Regex

def seqOf : List Node → Node
  | [] => .empty
  | [n] => n
  | n :: rest => .seq n (seqOf rest)

def altOf : List Node → Node
  | [] => .empty
  | [n] => n
  | n :: rest => .alt n (altOf rest)

/-- Blanks and comments, which mean nothing in a verbose pattern. -/
def isVerboseBlank (t : Token) : Bool := !t.escaped && Text.isAsciiBlank t.char

namespace Reader

/-! ### Repetition -/

/-- Counts in braces: the least and the greatest number, as far as they are given. -/
structure Counts where
  low : List Char
  high : List Char

/-- The counts after an opening brace, if they are such. -/
def counts? : Reader (Option Counts) := do
  let fuel := (← get).source.rest.length
  let low ← takeUpTo Char.isDigit fuel
  let high ← if ← accept ',' then takeUpTo Char.isDigit fuel else pure low
  return if ← accept '\x7d' then some ⟨low, high⟩ else none

def repeatBound (digits : List Char) : Reader (Option Nat) := do
  if digits.isEmpty then return none
  else
    let n := numeral 10 digits
    if repeatLimit ≤ n then throw .tooLarge else return some n

/-- The least and greatest number that counts stand for. -/
def repeatBounds (start : Nat) (c : Counts) : Reader (Nat × Option Nat) := do
  let low ← repeatBound c.low
  let high ← repeatBound c.high
  let least := low.getD 0
  match high with
  | some h =>
    if h < least then failAt "min repeat greater than max repeat" (some start)
    else return (least, some h)
  | none => return (least, none)

/-- The bounds of a repetition that a character asks for; a brace that does not is none. -/
def repetition? (c : Char) : Reader (Option (Nat × Option Nat)) := do
  match c with
  | '?' => return some (0, some 1)
  | '*' => return some (0, none)
  | '+' => return some (1, none)
  | _ =>
    if ← nextIs '\x7d' then return none
    else
      let start ← tell
      let saved := (← get).source
      match ← counts? with
      | some counts => return some (← repeatBounds start counts)
      | none =>
        setSource saved
        return none

def greed : Reader Greed := do
  if ← accept '?' then return .lazy
  else if ← accept '+' then return .possessive
  else return .greedy

/-- Repeats the last of the items so far; `start` is where the repetition was asked for. -/
def repeatLast (items : List Node) (start : Nat) (least : Nat) (most : Option Nat) :
    Reader (List Node) := do
  match items.getLast? with
  | none | some (.anchor _) => failAt "nothing to repeat" (some start)
  | some (.rep ..) => failAt "multiple repeat" (some start)
  | some item => return items.dropLast ++ [.rep (← greed) least most item]

/-! ### Items -/

def skipLine : Nat → Reader Unit
  | 0 => return ()
  | fuel + 1 => do
    match ← advance with
    | none => return ()
    | some t => if t == .plain '\n' then return () else skipLine fuel

def closeParenthesis (start : Nat) : Reader Unit := do
  if !(← accept ')') then failAt "missing ), unterminated subpattern" (some start)

/-- An item that no other item is nested in. -/
def simpleItem (items : List Node) (t : Token) (start : Nat) : Reader (List Node) := do
  if t.escaped then return items ++ [← escape t.point]
  else match t.char with
    | '[' => return items ++ [← charSet start]
    | '.' => return items ++ [.any]
    | '^' => return items ++ [.anchor .lineStart]
    | '$' => return items ++ [.anchor .lineEnd]
    | c =>
      if ['*', '+', '?', '\x7b'].contains c then
        match ← repetition? c with
        | some (least, most) => repeatLast items start least most
        | none => return items ++ [.char c.toNat]
      else return items ++ [.char t.point.code]

def inLookbehind (behind : Bool) (read : Reader Node) : Reader Node := do
  let outer := (← get).lookbehindGroups
  if behind && outer.isNone then
    let groups ← groupCount
    modify fun s => { s with lookbehindGroups := some groups }
  let body ← read
  modify fun s => { s with lookbehindGroups := outer }
  return body

mutual

/-- Sequences with bars between. At the top, global flags of the first sequence hold for the
others. -/
def alternatives : (fuel : Nat) → (verbose top first : Bool) → Reader (List Node)
  | 0, _, _, _ => return []
  | fuel + 1, verbose, top, first => do
    let items ← sequence fuel verbose (top && first) []
    if ← accept '|' then
      let flags := (← get).flags
      let inner := if top then flags.verbose else verbose
      return seqOf items :: (← alternatives fuel inner top false)
    else return [seqOf items]

/-- Items up to a bar, a closing parenthesis or the end. -/
def sequence : (fuel : Nat) → (verbose first : Bool) → List Node → Reader (List Node)
  | 0, _, _, items => return items
  | fuel + 1, verbose, first, items => do
    match ← next? with
    | none => return items
    | some t =>
      if t.isOneOf ['|', ')'] then return items
      else
        let start ← tell
        let _ ← advance
        if verbose && isVerboseBlank t then sequence fuel verbose first items
        else if verbose && t == .plain '#' then
          skipLine ((← get).source.rest.length + 1)
          sequence fuel verbose first items
        else if t == .plain '(' then
          match ← opening start with
          | .globalFlags =>
            if !first || !items.isEmpty then
              failAt "global flags not at the start of the expression" (some start)
            else
              let flags := (← get).flags
              sequence fuel flags.verbose first items
          | .comment => sequence fuel verbose first items
          | kind =>
            let item ← group fuel verbose start kind
            sequence fuel verbose first (items ++ [item])
        else
          let items ← simpleItem items t start
          sequence fuel verbose first items

/-- What stands in a parenthesis that began at `start`. -/
def group : (fuel : Nat) → (verbose : Bool) → (start : Nat) → Opening → Reader Node
  | 0, _, _, _ => return .empty
  | fuel + 1, verbose, start, kind => do
    match kind with
    | .comment | .globalFlags => return .empty
    | .namedReference index => return .backref index
    | .capture name =>
      let index ← openGroup name
      let body := altOf (← alternatives fuel verbose false false)
      closeParenthesis start
      closeGroup index (body.width (← get).widths)
      return .group (some index) {} {} body
    | .plain add del =>
      let inner := (verbose || add.verbose) && !del.verbose
      let body := altOf (← alternatives fuel inner false false)
      closeParenthesis start
      return .group none add del body
    | .atomic =>
      let body := altOf (← alternatives fuel verbose false false)
      closeParenthesis start
      return .atomic body
    | .look behind negated =>
      let body ← inLookbehind behind (return altOf (← alternatives fuel verbose false false))
      closeParenthesis start
      return if behind then .lookbehind negated 0 body else .lookahead negated body
    | .condition index =>
      let yes := seqOf (← sequence fuel verbose false [])
      let hasNo ← accept '|'
      let no := seqOf (← if hasNo then sequence fuel verbose false [] else pure [])
      if hasNo && (← nextIs '|') then
        fail "conditional backref with more than two branches" 0
      closeParenthesis start
      return .conditional index yes no

end

/-- The last checks: everything was read, and conditions ask about groups that there are. -/
def finish : Reader Unit := do
  if (← next?).isSome then fail "unbalanced parenthesis" 0
  let groups ← groupCount
  match (← get).conditions.find? fun c => groups ≤ c.1 with
  | some (index, position) =>
    failAt s!"invalid group reference {index}" (some position)
  | none => return ()

/-- A whole pattern. Unless it asks for ASCII, its classes range over all scripts. -/
def pattern : Reader Pattern := do
  checkDangling
  let fuel := 4 * (← get).source.rest.length + 4
  let body := altOf (← alternatives fuel false true true)
  let flags := (← get).flags
  if flags.ascii && flags.unicode then throw .twoScripts
  finish
  let widths := (← get).widths
  let flags := { flags with unicode := !flags.ascii }
  return ⟨← body.settle widths flags, flags, widths.length⟩

end Reader

namespace Pattern

def parse (text : Text) : Except Error Pattern :=
  let start : ReaderState := ⟨Source.ofPoints text.points, {}, [], [none], none, []⟩
  (Reader.pattern text.length start).map (·.1)

end Pattern

/-- What is wrong with a malformed pattern, in words; nothing for other errors. -/
def Error.message? (pattern : Text) : Error → Option Text
  | malformed reason none => some reason
  | malformed reason (some position) => some (positioned pattern.points reason position)
  | _ => none

end JsonSchema.Regex
