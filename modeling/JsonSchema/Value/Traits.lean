import JsonSchema.Fault
import JsonSchema.Value.Equality

/-!
What can be done with a value: being empty, being a key, having elements or members.

`isTruthy` asks whether a keyword is given at all, and counts an empty array or object as not
given. `isFalsy` asks whether a member may be left to the check for required members; there an
empty array or object is as good as any other.
-/

namespace JsonSchema

namespace Value

def isTruthy : Value → Bool
  | undefined | null => false
  | bool b => b
  | number x => !x.isZero
  | string s => s != ""
  | array _ items => !items.isEmpty
  | object entries => !entries.isEmpty
  | bytes bs => !bs.isEmpty
  | set members => !members.isEmpty
  | date _ | datetime _ => true

/-- Whether a value is absent, null, false, zero, NaN or the empty string. A number that is not
zero has to be near to a double for this. -/
def isFalsy : Value → Except Fault Bool
  | undefined | null => .ok true
  | bool b => .ok !b
  | number x =>
    if x.isZero then .ok true
    else match x.toDouble? with
      | some d => .ok d.isNaN
      | none => .error .tooLarge
  | string s => .ok (s == "")
  | _ => .ok false

mutual

/-- Whether a value may be a key: lists, objects and sets may not, nor tuples that hold any. -/
def isKey : Value → Bool
  | array .list _ | object _ | set _ => false
  | array .tuple items => areKeys items
  | _ => true

def areKeys : List Value → Bool
  | [] => true
  | v :: rest => isKey v && areKeys rest

end

/-- The elements of a value: of an array, the characters of a string, the keys of an object, the
numbers of bytes, the members of a set. -/
def elements : Value → Except Fault (List Value)
  | array _ items => .ok items
  | string s => .ok (s.points.map fun p => .string (.ofPoints [p]))
  | object entries => .ok (Entries.keys entries)
  | bytes bs => .ok (bs.map fun b => .int b.toNat)
  | set members => .ok members
  | v => .error (.misuse (.notIterable v.storedKindName))

def comparable (v : Value) : Except Fault Number :=
  match v.asNumber? with
  | some x => .ok x
  | none => .error (.misuse (.incomparable v.storedKindName))

end Value

/-! ### Keywords -/

namespace Entries

/-- The value of a keyword, unless it is null. -/
def given? (keywords : Entries) (name : String) : Option Value :=
  (named? keywords name).filter fun v => !v.isNull

/-- The value of a keyword, unless it is the absent value. -/
def defined? (keywords : Entries) (name : String) : Option Value :=
  (named? keywords name).filter fun v => !v.isUndefined

/-- The members of a keyword that maps names to schemas; an empty value has none. -/
def children (keywords : Entries) (name : String) : Except Fault Entries :=
  match named? keywords name with
  | none => .ok []
  | some v =>
    if !v.isTruthy then .ok []
    else match v with
      | .object members => .ok members
      | other => .error (.noMembers other.storedKindName)

end Entries

end JsonSchema
