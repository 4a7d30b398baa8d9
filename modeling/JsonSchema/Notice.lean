import JsonSchema.Location

/-!
What is reported along the way to an answer.
-/

namespace JsonSchema

inductive Notice where
  | unionType (types : List Value) (schemaLocation valuePath : Location)
  | registered (name : String)
  | loaded (name path : String)
  | valid (name : String)
  | violated (count : Nat) (name : String)
  deriving Repr

namespace Notice

def origin : Notice → String
  | unionType .. => "schemavalidator.validator"
  | _ => "schemavalidator.registry"

/-- Halves of pairs are escaped, as reports cannot hold them. -/
def message : Notice → String
  | unionType types schemaLocation valuePath =>
    "Union type " ++ (Value.list types).literal ++ " at " ++ schemaLocation.text.escaped
      ++ " is not supported; reporting " ++ valuePath.text.escaped ++ " as invalid"
  | registered name => "Registered schema " ++ name
  | loaded name path => "Loaded schema " ++ name ++ " from " ++ path
  | valid name => "Value is valid against " ++ name
  | violated count name => s!"Value has {count} violation(s) against {name}"

end Notice

end JsonSchema
