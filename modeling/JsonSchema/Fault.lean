import JsonSchema.Location
import JsonSchema.Value.Kind

/-!
Why a question is left without an answer.

Values that a schema refuses are answers, not faults. A fault is a defect of the schema, of a
document, of the settings, or of the call.
-/

namespace JsonSchema

inductive SchemaDefect where
  /-- Something stands where a schema should, and is neither a boolean nor an object. -/
  | notASchema (kind : String)
  /-- A regular expression cannot be read. -/
  | badPattern (pattern cause : Text)
  /-- A defect in words of its own. -/
  | stated (message : String)
  deriving DecidableEq, Repr

def SchemaDefect.message : SchemaDefect → Text
  | notASchema kind => "Schema node must be a boolean or an object, got " ++ kind
  | badPattern pattern cause => "Invalid regular expression /" ++ pattern ++ "/: " ++ cause
  | stated message => message

/-- A value of a kind that what is done with it has no meaning for. -/
inductive Misuse where
  | incomparable (kind : String)
  | notIterable (kind : String)
  | notAKey (kind : String)
  | notAText (kind : String)
  | notANumber (kind : String)
  | notAPattern (kind : String)
  | notAField (kind : String)
  | badCall (function : String)
  deriving DecidableEq, Repr

inductive Fault where
  | schema (defect : SchemaDefect) (location : Location)
  | misuse (use : Misuse)
  /-- Members are asked for of a value that is no object, or a name that is not there. -/
  | noMembers (kind : String)
  /-- A number is beyond what a double, a repetition or a character can be. -/
  | tooLarge
  /-- An integer has more digits than are read or written. -/
  | tooManyDigits
  /-- A number is written without any digit. -/
  | noDigits
  /-- A word stands for no boolean. -/
  | notABoolean
  /-- A pattern asks for two scripts at once. -/
  | twoScripts
  /-- A text has the form of a number, a date or an address, but there is none such. -/
  | impossible (kind : String)
  /-- Bytes are no text, or a text cannot be written as bytes. -/
  | notUnicode
  /-- A document refers to itself while it is built. -/
  | endless
  | nameTaken (name : String)
  | nameUnknown (name : String)
  | definitionUnknown (name : String)
  | loading (message : String) (path : Option String)
  | settings (message : String) (fields : List String)
  /-- A fault in words of its own. -/
  | stated (message : String)
  deriving Repr, Inhabited

namespace Fault

def message : Fault → Text
  | schema defect _ => defect.message
  | nameTaken name => s!"Schema '{name}' is already registered"
  | nameUnknown name => s!"Schema '{name}' is not registered"
  | loading message _ => message
  | settings message _ => message
  | stated message => message
  | _ => ""

/-- The text of a fault: its message, behind the place in the schema if it has one. -/
def text : Fault → Text
  | schema defect location => location.text ++ ": " ++ defect.message
  | f => f.message

end Fault

end JsonSchema
