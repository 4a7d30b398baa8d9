import JsonSchema.Value.Basic

/-!
The types that a schema may ask for, and the kinds that values are of.
-/

namespace JsonSchema

inductive JsonType where
  | string
  | number
  | integer
  | boolean
  | null
  | object
  | array
  deriving DecidableEq, Repr

namespace JsonType

def name : JsonType → String
  | string => "string"
  | number => "number"
  | integer => "integer"
  | boolean => "boolean"
  | null => "null"
  | object => "object"
  | array => "array"

def all : List JsonType := [string, number, integer, boolean, null, object, array]

def ofName? (name : Text) : Option JsonType := all.find? fun t => (t.name : Text) == name

/-- The type that a value names, if it is a string and names one. -/
def ofValue? : Value → Option JsonType
  | .string s => ofName? s
  | _ => none

theorem ofName?_name (t : JsonType) : ofName? t.name = some t := by
  cases t <;> decide

theorem name_of_ofName? {name : Text} {t : JsonType} (h : ofName? name = some t) :
    (t.name : Text) = name := by
  have := List.find?_some h
  simpa using this

end JsonType

namespace Value

/-- The kind of a value, as reasons name it. -/
def kindName : Value → String
  | undefined => "undefined"
  | null => "null"
  | bool _ => "boolean"
  | number _ => "number"
  | string _ => "string"
  | array .. => "array"
  | object _ => "object"
  | date _ => "date"
  | datetime _ => "datetime"
  | bytes _ => "bytes"
  | set _ => "set"

/-- The kind of a value, as errors about things that are no schema name it. -/
def storedKindName : Value → String
  | undefined => "_Undefined"
  | null => "NoneType"
  | bool _ => "bool"
  | number (.int _) => "int"
  | number (.double _) => "float"
  | string _ => "str"
  | array .list _ => "list"
  | array .tuple _ => "tuple"
  | object _ => "dict"
  | date _ => "date"
  | datetime _ => "datetime"
  | bytes _ => "bytes"
  | set _ => "set"

end Value

end JsonSchema
