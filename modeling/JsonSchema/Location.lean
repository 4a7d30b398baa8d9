import JsonSchema.Value.Literal

/-!
Places inside a value or a schema, as the steps that lead there from a named root.
-/

namespace JsonSchema

/-- A step into an object, to the member under a key, or into an array. -/
inductive Step where
  | member (key : Value)
  | element (index : Nat)
  deriving Repr

def Step.text : Step → Text
  | member key => key.text
  | element index => toString index

structure Location where
  root : String
  steps : List Step
  deriving Repr, Inhabited

namespace Location

/-- The start of a location, which is written as a hash sign unless a caller names it. -/
def start (root : String) : Location := ⟨root, []⟩

def here : Location := start "#"

def push (location : Location) (step : Step) : Location :=
  { location with steps := location.steps ++ [step] }

def member (location : Location) (key : Value) : Location := location.push (.member key)

def element (location : Location) (index : Nat) : Location := location.push (.element index)

def keyword (location : Location) (name : String) : Location := location.member (.string name)

/-- The root, then each step behind a slash. -/
def text (location : Location) : Text :=
  location.steps.foldl (fun s step => s ++ "/" ++ step.text) location.root

end Location

end JsonSchema
