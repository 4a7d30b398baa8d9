import JsonSchema.Validation.Place
import JsonSchema.Validation.Scalar

/-!
The checks of arrays: one schema for all elements, or a tuple with one schema for each position.
-/

namespace JsonSchema.Validation

/-- What an element becomes: null if it is refused or absent. -/
def elementResult : Verdict → Value
  | .valid result => if result.isUndefined then .null else result
  | .invalid _ => .null

/-- The results of elements and their violations, both in the order of the elements. -/
structure ElementsPart where
  results : List Value
  violations : List Violation

def ElementsPart.ofVerdicts (verdicts : List Verdict) : ElementsPart :=
  ⟨verdicts.map elementResult, verdicts.flatMap Verdict.violations⟩

section

variable (validate : Validator)

/-- Validates elements from a position on, all against one schema. -/
def listVerdicts (schema : Value) (place : Place) : Nat → List Value → Outcome (List Verdict)
  | _, [] => return []
  | index, element :: rest => do
    let verdict ← validate schema element (place.listElement index)
    return verdict :: (← listVerdicts schema place (index + 1) rest)

/-- Validates elements from a position on, each against the schema of its position; elements
without a schema are left out. -/
def tupleVerdicts (place : Place) : Nat → List Value → List Value → Outcome (List Verdict)
  | index, schema :: schemas, element :: rest => do
    let verdict ← validate schema element (place.tupleElement index)
    return verdict :: (← tupleVerdicts place (index + 1) schemas rest)
  | _, _, _ => return []

/-- The result of the elements and their violations. An array that is shorter than its tuple has
no element validated. -/
def elementsPart (keywords : Entries) (items : List Value) (value : Value) (place : Place) :
    Outcome (Value × List Violation) := do
  match keywords.defined? "items" with
  | none => return (value, [])
  | some (.array _ schemas) =>
    if items.length < schemas.length then
      return (.list [], violationsAt keywords value place
        [.tupleLength schemas.length items.length])
    else
      let part := ElementsPart.ofVerdicts (← tupleVerdicts validate place 0 schemas items)
      return (.list part.results, part.violations)
  | some schema =>
    let part := ElementsPart.ofVerdicts (← listVerdicts validate schema place 0 items)
    return (.list part.results, part.violations)

def validateArray (keywords : Entries) (value : Value) (place : Place) : Outcome Verdict := do
  let guard := violationsAt keywords value place
    (← liftM (guardReasons keywords .array .json value))
  match value with
  | .array _ items =>
    let (result, violations) ← elementsPart validate keywords items value place
    return verdictOf result (guard ++ violations)
  | _ => return verdictOf value guard

end

end JsonSchema.Validation
