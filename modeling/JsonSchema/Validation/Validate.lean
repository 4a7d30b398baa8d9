import JsonSchema.Validation.Array
import JsonSchema.Validation.Object

/-!
Validation of a value against a schema.

A schema is a boolean or an object of keywords. `validateNode` says what one node asks, given how
the schemas below it are validated; `validateUpTo` nests nodes to a depth, and the depth of the
schema itself always suffices.
-/

namespace JsonSchema

namespace Validation

def scalarVerdict (keywords : Entries) (value : Value) (place : Place) (reasons : Reasons) :
    Outcome Verdict := do
  return verdictOf value (violationsAt keywords value place (← liftM reasons))

def validateTyped (validate : Validator) (type : JsonType) (keywords : Entries) (value : Value)
    (place : Place) : Outcome Verdict :=
  match type with
  | .string => scalarVerdict keywords value place (stringReasons keywords value place.schema)
  | .number => scalarVerdict keywords value place (numberReasons keywords value)
  | .integer => scalarVerdict keywords value place (integerReasons keywords value)
  | .boolean => scalarVerdict keywords value place (.ok (typeReasons .boolean value))
  | .null => scalarVerdict keywords value place (.ok (typeReasons .null value))
  | .array => validateArray validate keywords value place
  | .object => validateObject validate keywords value place

/-- An absent value becomes the default of the node, if it has one. -/
def absentVerdict (keywords : Entries) (place : Place) : Verdict :=
  match keywords.defined? "default" with
  | some value => .valid value
  | none => .invalid (violationsAt keywords .undefined place [.absent])

/-- A node with a list of types refuses every value without a violation, and this is reported. -/
def validateKeywords (validate : Validator) (keywords : Entries) (value : Value)
    (place : Place) : Outcome Verdict :=
  if value.isUndefined then return absentVerdict keywords place
  else match keywords.named? "type" with
    | some (.array _ types) => do
      Outcome.notify (.unionType types place.schema place.value)
      return .invalid []
    | declared =>
      match declared.bind JsonType.ofValue? with
      | some type => validateTyped validate type keywords value place
      | none => return .valid value

def validateNode (validate : Validator) : Validator := fun schema value place =>
  match schema with
  | .bool true => return .valid value
  | .bool false => return .invalid [⟨value, schema, .falseSchema, place.schema, place.value⟩]
  | .object keywords => validateKeywords validate keywords value place
  | other => throw (.schema (.notASchema other.storedKindName) .here)

/-- Validation through at most so many levels of schemas; deeper ones are no schemas to it. -/
def validateUpTo : Nat → Validator
  | 0 => validateNode fun schema _ _ =>
    throw (.schema (.notASchema schema.storedKindName) .here)
  | depth + 1 => validateNode (validateUpTo depth)

end Validation

/-- Whether a value is a schema as far as its outside shows. -/
def isSchema : Value → Bool
  | .bool _ | .object _ => true
  | _ => false

def requireSchema (schema : Value) : Except Fault Unit :=
  if isSchema schema then .ok ()
  else .error (.schema (.notASchema schema.storedKindName) .here)

/-- Validates a value against a schema, both at the given place. -/
def validate : Validator := fun schema value place =>
  Validation.validateUpTo schema.depth schema value place

end JsonSchema
