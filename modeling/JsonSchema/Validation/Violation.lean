import JsonSchema.Location
import JsonSchema.Validation.Reason

/-!
Violations and verdicts.

A verdict is the value as the schema completes it, or the violations in the order in which they
were found.
-/

namespace JsonSchema

/-- One refusal: the value, absent if there was none, the schema that refused it, the reason, and
the places of both. -/
structure Violation where
  value : Value
  schema : Value
  reason : Reason
  schemaLocation : Location
  valuePath : Location
  deriving Repr

namespace Violation

def hasValue (v : Violation) : Bool := !v.value.isUndefined

/-- The path of the value, then the reason. -/
def text (v : Violation) : Text := v.valuePath.text ++ ": " ++ v.reason.message

end Violation

inductive Verdict where
  | valid (result : Value)
  | invalid (violations : List Violation)
  deriving Repr

namespace Verdict

def isValid : Verdict → Bool
  | valid _ => true
  | invalid _ => false

def violations : Verdict → List Violation
  | valid _ => []
  | invalid vs => vs

/-- The fields of a violation as they are written out, in order. -/
def violationFields (v : Violation) : Value :=
  .object ((if v.hasValue then [(.string "value", v.value)] else [])
    ++ [(.string "schema", v.schema), (.string "reason", .string v.reason.message),
      (.string "schemaLocation", .string v.schemaLocation.text),
      (.string "valuePath", .string v.valuePath.text)])

/-- A verdict as a value; an absent result and an absent offending value are left out. -/
def toValue : Verdict → Value
  | valid result =>
    .object ((.string "isValid", .bool true)
      :: (if result.isUndefined then [] else [(.string "result", result)]))
  | invalid vs =>
    .object [(.string "isValid", .bool false), (.string "result", .list (vs.map violationFields))]

end Verdict

end JsonSchema
