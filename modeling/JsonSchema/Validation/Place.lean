import JsonSchema.Outcome
import JsonSchema.Validation.Violation

/-!
Where a validation stands: in the schema and in the value.
-/

namespace JsonSchema

structure Place where
  schema : Location
  value : Location
  deriving Repr, Inhabited

namespace Place

def start : Place := ⟨.here, .here⟩

def keyword (place : Place) (name : String) : Place :=
  { place with schema := place.schema.keyword name }

def property (place : Place) (keyword : String) (name : Value) : Place where
  schema := (place.schema.keyword keyword).member name
  value := place.value.member name

def patternProperty (place : Place) (pattern key : Value) : Place where
  schema := (place.schema.keyword "patternProperties").member pattern
  value := place.value.member key

def additionalProperty (place : Place) (key : Value) : Place where
  schema := place.schema.keyword "additionalProperties"
  value := place.value.member key

def listElement (place : Place) (index : Nat) : Place where
  schema := place.schema.keyword "items"
  value := place.value.element index

def tupleElement (place : Place) (index : Nat) : Place where
  schema := (place.schema.keyword "items").element index
  value := place.value.element index

end Place

/-- A way to validate a value against a schema at a place. -/
abbrev Validator := (schema value : Value) → Place → Outcome Verdict

namespace Validation

/-- Violations of a node for some reasons, all about the same value at the same place. -/
def violationsAt (keywords : Entries) (value : Value) (place : Place) (reasons : List Reason) :
    List Violation :=
  reasons.map fun reason => ⟨value, .object keywords, reason, place.schema, place.value⟩

/-- The value itself if there are no violations. -/
def verdictOf (value : Value) : List Violation → Verdict
  | [] => .valid value
  | violations => .invalid violations

end Validation

end JsonSchema
