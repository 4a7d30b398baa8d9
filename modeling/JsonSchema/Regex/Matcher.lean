import JsonSchema.Regex.CharClass

/-!
Whether a pattern occurs in a text.

Ways to match are tried in order, each with the rest of the pattern as a continuation, and the
first that succeeds is taken. A repetition takes a further turn only where the text moved on
since the last one.
-/

namespace JsonSchema.Regex

/-- Where a match stands: its position, and the marks at which groups started and ended. -/
structure MatchState where
  position : Nat
  marks : Array (Option Nat)
  deriving Repr

namespace MatchState

def setMark (s : MatchState) (mark : Nat) : MatchState :=
  { s with marks := s.marks.setIfInBounds mark (some s.position) }

/-- The part of the text that a group matched, if it did. -/
def span? (s : MatchState) (index : Nat) : Option (Nat × Nat) :=
  match (s.marks[2 * index]?).join, (s.marks[2 * index + 1]?).join with
  | some first, some last => if first ≤ last then some (first, last) else none
  | _, _ => none

end MatchState

/-- What is still to match after a part. -/
abbrev Continuation := MatchState → Option MatchState

/-- Matches a part of a pattern and then what the continuation asks. -/
abbrev PartMatcher := Continuation → MatchState → Option MatchState

section

variable (text : Array Point)

def isWordAt (flags : Flags) (position : Nat) : Bool :=
  match text[position]? with
  | some c => Category.word.contains flags.ascii c
  | none => false

def isBoundary (flags : Flags) (position : Nat) : Bool :=
  (0 < position && isWordAt text flags (position - 1)) != isWordAt text flags position

def anchorHolds (flags : Flags) (position : Nat) : Anchor → Bool
  | .textStart => position == 0
  | .textEnd => position == text.size
  | .lineStart => position == 0 || (flags.multiLine && text[position - 1]? == some (.char '\n'))
  | .lineEnd =>
    position == text.size
      || (text[position]? == some (.char '\n') && (flags.multiLine || position + 1 == text.size))
  | .boundary => !text.isEmpty && isBoundary text flags position
  | .nonBoundary => !text.isEmpty && !isBoundary text flags position

def oneChar (test : Point → Bool) : PartMatcher := fun k s =>
  match text[s.position]? with
  | some c => if test c then k { s with position := s.position + 1 } else none
  | none => none

/-- The character at `position` and the characters after it are those from `first` to `last`. -/
def repeats (flags : Flags) (first last position : Nat) : Bool :=
  (List.range (last - first)).all fun i =>
    match text[first + i]?, text[position + i]? with
    | some a, some b =>
      if flags.ignoreCase then foldCase flags a == foldCase flags b else a == b
    | _, _ => false

def backreference (flags : Flags) (index : Nat) : PartMatcher := fun k s =>
  match s.span? index with
  | some (first, last) =>
    if repeats text flags first last s.position then
      k { s with position := s.position + (last - first) }
    else none
  | none => none

end

/-! ### Repetition -/

section

variable (body : PartMatcher) (least : Nat) (most : Option Nat)

/-- Whether a further turn is allowed after `count` of them, the last from position `last`. -/
def mayRepeat (count : Nat) (last : Option Nat) (s : MatchState) : Bool :=
  (match most with
    | none => true
    | some m => count < m) && last != some s.position

def greedyTurns (k : Continuation) : Nat → Nat → Option Nat → Continuation
  | 0, _, _, _ => none
  | fuel + 1, count, last, s =>
    if count < least then body (greedyTurns k fuel (count + 1) last) s
    else if mayRepeat most count last s then
      match body (greedyTurns k fuel (count + 1) (some s.position)) s with
      | some r => some r
      | none => k s
    else k s

def lazyTurns (k : Continuation) : Nat → Nat → Option Nat → Continuation
  | 0, _, _, _ => none
  | fuel + 1, count, last, s =>
    if count < least then body (lazyTurns k fuel (count + 1) last) s
    else
      match k s with
      | some r => some r
      | none =>
        if mayRepeat most count last s then
          body (lazyTurns k fuel (count + 1) (some s.position)) s
        else none

/-- The turns of a repetition that never gives back, each matched on its own. -/
def possessiveTurns : Nat → Nat → Option Nat → Continuation
  | 0, _, _, _ => none
  | fuel + 1, count, last, s =>
    if count < least then (body some s).bind (possessiveTurns fuel (count + 1) last)
    else if mayRepeat most count last s then
      match body some s with
      | some r => possessiveTurns fuel (count + 1) (some s.position) r
      | none => some s
    else some s

/-- All turns of a repetition. Past the least number every turn but one moves on in the text,
so there are no more turns than that number, two, and the characters left. -/
def repeated (textSize : Nat) (greed : Greed) : PartMatcher := fun k s =>
  let turns := least + (textSize - s.position) + 3
  match greed with
  | .greedy => greedyTurns body least most k turns 0 none s
  | .lazy => lazyTurns body least most k turns 0 none s
  | .possessive => (possessiveTurns body least most turns 0 none s).bind k

end

/-! ### Trees -/

def matchNode (text : Array Point) : Node → Flags → PartMatcher
  | .empty, _ => fun k s => k s
  | .char code, flags => oneChar text (charMatches flags code)
  | .notChar code, flags => oneChar text fun c => !charMatches flags code c
  | .any, flags => oneChar text (anyMatches flags)
  | .charSet negated items, flags => oneChar text (setMatches flags negated items)
  | .anchor at_, flags => fun k s => if anchorHolds text flags s.position at_ then k s else none
  | .seq first second, flags => fun k s =>
    matchNode text first flags (matchNode text second flags k) s
  | .alt first second, flags => fun k s =>
    match matchNode text first flags k s with
    | some r => some r
    | none => matchNode text second flags k s
  | .group none add del body, flags => matchNode text body (flags.inGroup add del)
  | .group (some index) add del body, flags => fun k s =>
    matchNode text body (flags.inGroup add del) (fun r => k (r.setMark (2 * index + 1)))
      (s.setMark (2 * index))
  | .atomic body, flags => fun k s => (matchNode text body flags some s).bind k
  | .rep greed least most body, flags =>
    repeated (matchNode text body flags) least most text.size greed
  | .backref index, flags => backreference text flags index
  | .conditional index yes no, flags => fun k s =>
    if (s.span? index).isSome then matchNode text yes flags k s else matchNode text no flags k s
  | .lookahead negated body, flags => fun k s =>
    match matchNode text body flags some s with
    | some r => if negated then none else k { r with position := s.position }
    | none => if negated then k s else none
  | .lookbehind negated width body, flags => fun k s =>
    let found := if s.position < width then none
      else matchNode text body flags some { s with position := s.position - width }
    match found with
    | some r => if negated then none else k { r with position := s.position }
    | none => if negated then k s else none

namespace Pattern

def matchesAt (pattern : Pattern) (text : Array Point) (position : Nat) : Bool :=
  (matchNode text pattern.body pattern.flags some
    ⟨position, Array.replicate (2 * pattern.groups) none⟩).isSome

/-- Whether the pattern matches a part of the text, wherever it starts. -/
def occursIn (pattern : Pattern) (text : Text) : Bool :=
  let points := text.points.toArray
  (List.range (points.size + 1)).any (pattern.matchesAt points)

end Pattern

end JsonSchema.Regex
