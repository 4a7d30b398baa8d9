import JsonSchema.Fault
import JsonSchema.Value.Render

/-!
JSON text over several lines, with two more blanks before the lines of each level.

A key that is a number, a boolean or null is written as the string of its JSON text, and no other
value may be a key. A value that JSON has no form for is written as the string of its text.
-/

namespace JsonSchema

namespace Number

/-- A number in JSON text, where a double keeps its point or exponent. -/
def json : Number → Except Fault String
  | .int n => if withinDigitLimit n then .ok (toString n) else .error .tooManyDigits
  | .double .nan => .ok "NaN"
  | .double (.infinite negative) => .ok (if negative then "-Infinity" else "Infinity")
  | .double x => .ok x.literal

end Number

namespace Value

inductive Quoting where
  | raw
  | ascii
  deriving DecidableEq, Repr

def Quoting.quote : Quoting → Text → Text
  | raw, t => t.inQuotes
  | ascii, t => t.inAscii

/-- The string that a key is written as. -/
def keyText : Value → Except Fault Text
  | string s => .ok s
  | null => .ok "null"
  | bool b => .ok (if b then "true" else "false")
  | number x => x.json.map Text.ofString
  | v => .error (.misuse (.notAKey v.storedKindName))

/-- The start of a line on a level. -/
def lineStart (level : Nat) : String := String.ofList ('\n' :: List.replicate (2 * level) ' ')

/-- Parts between brackets on lines of their own. -/
def enclosedLines (left right : String) (level : Nat) (parts : List Text) : Text :=
  match parts with
  | [] => left ++ right
  | parts =>
    left ++ lineStart (level + 1) ++ Text.join ("," ++ lineStart (level + 1)) parts
      ++ lineStart level ++ right

mutual

def indented (q : Quoting) (level : Nat) : Value → Except Fault Text
  | null => .ok "null"
  | bool b => .ok (if b then "true" else "false")
  | number x => x.json.map Text.ofString
  | string s => .ok (q.quote s)
  | array _ items => (indentedItems q (level + 1) items).map (enclosedLines "[" "]" level)
  | object entries =>
    (indentedEntries q (level + 1) entries).map (enclosedLines "\x7b" "\x7d" level)
  | v => .ok (q.quote v.text)

def indentedItems (q : Quoting) (level : Nat) : List Value → Except Fault (List Text)
  | [] => .ok []
  | v :: rest => do
    let part ← indented q level v
    return part :: (← indentedItems q level rest)

def indentedEntries (q : Quoting) (level : Nat) : List (Value × Value) → Except Fault (List Text)
  | [] => .ok []
  | (k, v) :: rest => do
    let key ← k.keyText
    let part ← indented q level v
    return (q.quote key ++ ": " ++ part) :: (← indentedEntries q level rest)

end

end Value

end JsonSchema
