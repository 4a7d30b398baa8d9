import JsonSchema.Value.Kind
import JsonSchema.Value.Render

/-!
The reasons for which a value is refused, and their wording.
-/

namespace JsonSchema

/-- How a literal of `const` or `enum` is shown. -/
inductive LiteralForm where
  /-- In single quotes, as strings are. -/
  | quoted
  /-- In its plain form, as numbers are. -/
  | plain
  /-- As JSON text, as arrays and objects are. -/
  | json
  deriving DecidableEq, Repr

def LiteralForm.show : LiteralForm → Value → Text
  | quoted, v => "'" ++ v.render ++ "'"
  | plain, v => v.render
  | json, v => v.jsonText

def LiteralForm.canShow : LiteralForm → Value → Bool
  | json, v => v.isJsonWritable
  | _, v => v.isWritable

/-- A comparison that a keyword asks of a number. -/
inductive Bound where
  | minimum
  | exclusiveMinimum
  | maximum
  | exclusiveMaximum
  deriving DecidableEq, Repr

inductive Reason where
  | falseSchema
  | absent
  | mismatch (expected : JsonType) (kind : String)
  | const (form : LiteralForm) (literal : Value)
  | enum (form : LiteralForm) (literals : List Value)
  | shorterThan (length : Value)
  | longerThan (length : Value)
  | pattern (text : Text)
  | outside (bound : Bound) (limit : Value)
  | multipleOf (divisor : Value)
  | notInteger
  | tupleLength (expected actual : Nat)
  | missing (names : List Text)
  | additional (keys : List Value)
  | fewerProperties (count : Value)
  | moreProperties (count : Value)
  /-- A reason in words of its own. -/
  | stated (message : String)
  deriving Repr

namespace Bound

def keyword : Bound → String
  | minimum => "minimum"
  | exclusiveMinimum => "exclusiveMinimum"
  | maximum => "maximum"
  | exclusiveMaximum => "exclusiveMaximum"

def phrase : Bound → String
  | minimum => "a minimum"
  | exclusiveMinimum => "an exclusive minimum"
  | maximum => "a maximum"
  | exclusiveMaximum => "an exclusive maximum"

def all : List Bound := [minimum, exclusiveMinimum, maximum, exclusiveMaximum]

/-- Whether a number is beyond a bound; NaN is beyond none. -/
def isViolated (bound : Bound) (x limit : Number) : Bool :=
  match bound with
  | minimum => Number.lt x limit
  | exclusiveMinimum => Number.le x limit
  | maximum => Number.lt limit x
  | exclusiveMaximum => Number.le limit x

end Bound

namespace Reason

def message : Reason → Text
  | falseSchema => "Nothing validates against a false schema"
  | absent => "Value should not be undefined, schema does not have a default value"
  | mismatch expected kind =>
    s!"Value should have been a {expected.name} but was of type {kind}"
  | const form literal => "Value should have been exactly " ++ form.show literal
  | enum form literals =>
    "Value should have been one of [" ++ Text.join ", " (literals.map form.show) ++ "]"
  | shorterThan length =>
    "Value should have a minimum length of " ++ length.render ++ " character(s)"
  | longerThan length =>
    "Value should have a maximum length of " ++ length.render ++ " character(s)"
  | pattern text => "Value should match the following pattern /" ++ text ++ "/"
  | outside bound limit => "Value should have " ++ bound.phrase ++ " value of " ++ limit.render
  | multipleOf divisor => "Value should be a multiple of " ++ divisor.render
  | notInteger => "Value should have been an integer"
  | tupleLength expected actual =>
    s!"Should have tuple length {expected} but was {actual}"
  | missing names =>
    "Value should have all required properties but is missing [" ++ Text.join ", " names ++ "]"
  | additional keys =>
    "Should have no additional properties, found ["
      ++ Text.join "," (keys.map Value.text) ++ "]"
  | fewerProperties count =>
    "Object should have a minimum of " ++ count.render ++ " properties"
  | moreProperties count =>
    "Object should have a maximum of " ++ count.render ++ " properties"
  | stated message => message

/-- Whether the literals in a reason can be written. -/
def canShow : Reason → Bool
  | const form literal => form.canShow literal
  | enum form literals => literals.all form.canShow
  | shorterThan v | longerThan v | outside _ v | multipleOf v => v.isWritable
  | fewerProperties v | moreProperties v => v.isWritable
  | _ => true

end Reason

/-- The reason to refuse a value that is not of the expected type. -/
def Value.mismatch? (value : Value) (expected : JsonType) : Option Reason :=
  if value.kindName = expected.name then none else some (.mismatch expected value.kindName)

end JsonSchema
