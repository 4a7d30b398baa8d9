import JsonSchema.Number.Reading
import JsonSchema.Text.Quoted
import JsonSchema.Value.Literal

/-!
Values inside the reasons of violations.

`render` is the plain form of a literal and `jsonText` its compact JSON text. Both write an
integral double as the integer it equals. An integer of more than 4300 digits is written by
neither, which `isWritable` and `isJsonWritable` say.
-/

namespace JsonSchema

namespace Number

/-- Integral doubles are written as integers. -/
def render : Number → String
  | .int n => toString n
  | .double .nan => "NaN"
  | .double (.infinite negative) => if negative then "-Infinity" else "Infinity"
  | .double x =>
    match x.toInt? with
    | some n => toString n
    | none => x.literal

end Number

namespace Value

/-! ### Plain form -/

mutual

def render : Value → Text
  | undefined => "undefined"
  | null => "null"
  | bool b => if b then "true" else "false"
  | number x => x.render
  | string s => s
  | array _ items => Text.join "," (renderItems items)
  | object _ => "[object Object]"
  | v => v.text

def renderItems : List Value → List Text
  | [] => []
  | v :: rest => (if v.isNull then "" else render v) :: renderItems rest

end

mutual

def isWritable : Value → Bool
  | number (.int n) => withinDigitLimit n
  | array _ items => areWritable items
  | _ => true

def areWritable : List Value → Bool
  | [] => true
  | v :: rest => isWritable v && areWritable rest

end

/-! ### JSON text -/

/-- Fields by name: a later value takes the place of an earlier one of the same name. -/
def putField {α : Type} (fields : List (Text × α)) (name : Text) (value : α) : List (Text × α) :=
  if fields.any (·.1 == name) then
    fields.map fun f => if f.1 == name then (name, value) else f
  else fields ++ [(name, value)]

def distinctFields {α : Type} (fields : List (Text × α)) : List (Text × α) :=
  fields.foldl (fun done f => putField done f.1 f.2) []

def jsonArray (parts : List Text) : Text := "[" ++ Text.join "," parts ++ "]"

def jsonObject (fields : List (Text × Text)) : Text :=
  "\x7b" ++ Text.join "," (fields.map fun f => f.1.inQuotes ++ ":" ++ f.2) ++ "\x7d"

mutual

/-- Compact JSON text. -/
def jsonText : Value → Text
  | null => "null"
  | bool b => if b then "true" else "false"
  | number x => x.render
  | string s => s.inQuotes
  | array _ items => jsonArray (jsonTexts items)
  | object entries => jsonObject (distinctFields (jsonFields entries))
  | v => v.text.inQuotes

def jsonTexts : List Value → List Text
  | [] => []
  | v :: rest => jsonText v :: jsonTexts rest

def jsonFields : List (Value × Value) → List (Text × Text)
  | [] => []
  | (k, v) :: rest => (k.text, jsonText v) :: jsonFields rest

end

mutual

def isJsonWritable : Value → Bool
  | number (.int n) => withinDigitLimit n
  | array _ items => areJsonWritable items
  | object entries => fieldsAreJsonWritable entries
  | _ => true

def areJsonWritable : List Value → Bool
  | [] => true
  | v :: rest => isJsonWritable v && areJsonWritable rest

def fieldsAreJsonWritable : List (Value × Value) → Bool
  | [] => true
  | (k, v) :: rest => isWritable k && isJsonWritable v && fieldsAreJsonWritable rest

end

end Value

end JsonSchema
