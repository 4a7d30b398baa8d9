import JsonSchema.Regex.Escape

/-!
Sets of characters in brackets.
-/

namespace JsonSchema.Regex.Reader

/-- The character or class that a token of a set stands for. -/
def setItem (t : Token) : Reader ClassItem :=
  if t.escaped then setEscape t.point else return .char t.point.code

def unterminatedSet {α : Type} (start : Nat) : Reader α :=
  failAt "unterminated character set" (some start)

/-- A range between two characters; classes have no ranges, and the first may not exceed the
second. -/
def setRange (first last : Token) (a b : ClassItem) : Reader ClassItem :=
  let bad : Reader ClassItem :=
    fail ("bad character range " ++ first.text ++ "-" ++ last.text) (first.width + 1 + last.width)
  match a, b with
  | .char lo, .char hi => if hi < lo then bad else return .range lo hi
  | _, _ => bad

def setItems (start : Nat) : Nat → List ClassItem → Reader (List ClassItem)
  | 0, _ => unterminatedSet start
  | fuel + 1, done => do
    match ← advance with
    | none => unterminatedSet start
    | some this =>
      if this == .plain ']' && !done.isEmpty then return done
      else
        let first ← setItem this
        if ← accept '-' then
          match ← advance with
          | none => unterminatedSet start
          | some that =>
            if that == .plain ']' then return done ++ [first, .char 45]
            else
              let range ← setRange this that first (← setItem that)
              setItems start fuel (done ++ [range])
        else setItems start fuel (done ++ [first])

/-- The set after an opening bracket at `start`. -/
def charSet (start : Nat) : Reader Node := do
  let negated ← accept '^'
  let items ← setItems start ((← get).source.rest.length + 1) []
  match negated, items.eraseDups with
  | false, [.char code] => return .char code
  | true, [.char code] => return .notChar code
  | _, distinct => return .charSet negated distinct

end JsonSchema.Regex.Reader
