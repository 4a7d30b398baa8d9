import JsonSchema.Calendar
import JsonSchema.Number.Basic
import JsonSchema.Text.Basic

/-!
The values that documents and schemas hold.

Besides the seven kinds of JSON there is the absent value, and there are the further kinds that
YAML documents bring along: dates, times, bytes and sets. An object is a list of entries in the
order of their insertion, and a key may be any value.
-/

namespace JsonSchema

/-- An array is a list or a tuple. They differ when written out, and as keys. -/
inductive ArrayKind where
  | list
  | tuple
  deriving DecidableEq, Repr

inductive Value where
  | undefined
  | null
  | bool (b : Bool)
  | number (x : Number)
  | string (s : Text)
  | array (kind : ArrayKind) (items : List Value)
  | object (entries : List (Value × Value))
  | date (d : Date)
  | datetime (t : DateTime)
  | bytes (bs : List UInt8)
  | set (members : List Value)
  deriving Repr, Inhabited

/-- The entries of an object: keys with their values, in the order of insertion. -/
abbrev Entries := List (Value × Value)

namespace Value

def int (n : Int) : Value := .number (.int n)

def double (x : Double) : Value := .number (.double x)

def list (items : List Value) : Value := .array .list items

def isUndefined : Value → Bool
  | undefined => true
  | _ => false

def isNull : Value → Bool
  | null => true
  | _ => false

def isBool : Value → Bool
  | bool _ => true
  | _ => false

def isNumber : Value → Bool
  | number _ => true
  | _ => false

def isArray : Value → Bool
  | array .. => true
  | _ => false

def isObject : Value → Bool
  | object _ => true
  | _ => false

/-- A number, or a boolean counted as zero or one. -/
def asNumber? : Value → Option Number
  | number x => some x
  | bool b => some (.int (if b then 1 else 0))
  | _ => none

/-! ### Nesting depth -/

mutual

/-- How deep arrays, objects and sets nest, keys left out. -/
def depth : Value → Nat
  | array _ items => depthOfItems items + 1
  | object entries => depthOfEntries entries + 1
  | set members => depthOfItems members + 1
  | _ => 0

def depthOfItems : List Value → Nat
  | [] => 0
  | v :: rest => max (depth v) (depthOfItems rest)

def depthOfEntries : List (Value × Value) → Nat
  | [] => 0
  | (_, v) :: rest => max (depth v) (depthOfEntries rest)

end

theorem depth_le_depthOfItems {v : Value} {items : List Value} (h : v ∈ items) :
    v.depth ≤ depthOfItems items := by
  induction items with
  | nil => simp at h
  | cons w rest ih =>
    rcases List.mem_cons.1 h with rfl | h
    · simp only [depthOfItems]; omega
    · have := ih h
      simp only [depthOfItems]; omega

theorem depth_le_depthOfEntries {k v : Value} {entries : Entries} (h : (k, v) ∈ entries) :
    v.depth ≤ depthOfEntries entries := by
  induction entries with
  | nil => simp at h
  | cons e rest ih =>
    obtain ⟨k', w⟩ := e
    rcases List.mem_cons.1 h with h | h
    · cases h
      simp only [depthOfEntries]; omega
    · have := ih h
      simp only [depthOfEntries]; omega

end Value

end JsonSchema
