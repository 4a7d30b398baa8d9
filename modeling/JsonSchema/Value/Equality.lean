import JsonSchema.Value.Basic

/-!
Two equalities of values.

`Value.same` is the equality of keys and of set members: there a boolean is the number zero or
one, and a tuple is no list. `Value.jsonEqual` is the equality of JSON content: a boolean equals
only itself, and lists and tuples are both arrays. In both, numbers are compared by exact value
and objects without regard to the order of their entries.
-/

namespace JsonSchema

namespace Value

mutual

def same : Value → Value → Bool
  | undefined, undefined => true
  | null, null => true
  | bool a, bool b => a == b
  | bool a, number y => Number.eq (.int (if a then 1 else 0)) y
  | number x, bool b => Number.eq x (.int (if b then 1 else 0))
  | number (.double .nan), number (.double .nan) => true
  | number x, number y => Number.eq x y
  | string s, string t => s == t
  | array k xs, array l ys => k == l && sameItems xs ys
  | object es, object fs => es.length == fs.length && sameEntries es fs
  | date d, date e => d == e
  | datetime t, datetime u => t.sameInstant u
  | bytes a, bytes b => a == b
  | set xs, set ys => xs.length == ys.length && sameMembers xs ys
  | _, _ => false

def sameItems : List Value → List Value → Bool
  | [], [] => true
  | x :: xs, y :: ys => same x y && sameItems xs ys
  | _, _ => false

/-- Every entry of the first has an equal one in the second. -/
def sameEntries : List (Value × Value) → List (Value × Value) → Bool
  | [], _ => true
  | (k, v) :: es, fs => (fs.any fun f => same k f.1 && same v f.2) && sameEntries es fs

/-- Every member of the first has an equal one in the second. -/
def sameMembers : List Value → List Value → Bool
  | [], _ => true
  | x :: xs, ys => (ys.any fun y => same x y) && sameMembers xs ys

end

end Value

/-! ### Entries by key -/

namespace Entries

def get? (entries : Entries) (key : Value) : Option Value :=
  (List.find? (fun e => Value.same e.1 key) entries).map (·.2)

def contains (entries : Entries) (key : Value) : Bool :=
  List.any entries fun e => Value.same e.1 key

/-- The value under a key, absent when there is none. -/
def get (entries : Entries) (key : Value) : Value := (get? entries key).getD .undefined

/-- Puts a value under a key: in place of the value there, or as a last entry. -/
def insert : Entries → Value → Value → Entries
  | [], key, value => [(key, value)]
  | (k, v) :: rest, key, value =>
    if Value.same k key then (k, value) :: rest else (k, v) :: insert rest key value

def erase (entries : Entries) (key : Value) : Entries :=
  entries.filter fun e => !Value.same e.1 key

def ofList (pairs : List (Value × Value)) : Entries :=
  pairs.foldl (fun entries p => insert entries p.1 p.2) []

def keys (entries : Entries) : List Value := entries.map (·.1)

def named? (entries : Entries) (name : String) : Option Value := get? entries (.string name)

end Entries

namespace Value

mutual

def jsonEqual : Value → Value → Bool
  | bool a, bool b => a == b
  | number x, number y => Number.eq x y
  | object es, object fs =>
    es.length == fs.length && (fs.all fun f => Entries.contains es f.1) && jsonEqualEntries es fs
  | array _ xs, array _ ys => jsonEqualItems xs ys
  | undefined, undefined => true
  | null, null => true
  | string s, string t => s == t
  | date d, date e => d == e
  | datetime t, datetime u => t.sameInstant u
  | bytes a, bytes b => a == b
  | set xs, set ys => same (set xs) (set ys)
  | _, _ => false

def jsonEqualItems : List Value → List Value → Bool
  | [], [] => true
  | x :: xs, y :: ys => jsonEqual x y && jsonEqualItems xs ys
  | _, _ => false

/-- Every entry of the first has its key in the second, with an equal value there. -/
def jsonEqualEntries : List (Value × Value) → List (Value × Value) → Bool
  | [], _ => true
  | (k, v) :: es, fs =>
    (match Entries.get? fs k with
      | some w => jsonEqual v w
      | none => false) && jsonEqualEntries es fs

end

def jsonContains (candidates : List Value) (value : Value) : Bool :=
  candidates.any fun c => jsonEqual c value

end Value

end JsonSchema
