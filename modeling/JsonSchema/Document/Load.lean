import JsonSchema.Document.File
import JsonSchema.Document.Json
import JsonSchema.Document.Yaml.Build
import JsonSchema.Fault
import JsonSchema.Text.LetterCase
import JsonSchema.Text.Utf8

/-!
Values from documents.

A text is read as YAML. A file is read as JSON if its name says so and as YAML otherwise. A file
that is not there and a text that breaks the rules of its format are faults of loading; a text
that keeps the rules and still stands for no value is a fault of its own kind.
-/

namespace JsonSchema

namespace Yaml

def Error.fault (source : String) : Error → Fault
  | .text .malformed | .build .malformed => .loading "Invalid document syntax:" (some source)
  | .text .noCharacter => .impossible "character"
  | .text .hugeCharacter | .build .tooLarge => .tooLarge
  | .build .impossible => .impossible "scalar"
  | .text .tooManyDigits | .build .tooManyDigits => .tooManyDigits
  | .build .noDigits => .noDigits
  | .build .noBoolean => .notABoolean
  | .build .noDate => .noMembers "NoneType"
  | .build .notAText => .misuse (.notAText "list")
  | .build .endless => .endless

def Reading.value? : Reading → Except Fault Value
  | .value v => .ok v
  | .cyclic .. => .error .endless

end Yaml

def Json.Error.fault (path : FilePath) (text : List Char) : Json.Error → Fault
  | .malformed message rest =>
    .loading s!"Invalid JSON in {path.text}: {Json.located text message rest}" (some path.text)
  | .tooManyDigits => .tooManyDigits

namespace Document

def noSource : String := "<string>"

def read (text : List Char) (source : String) : Except Fault Yaml.Reading :=
  (Yaml.load text).mapError (Yaml.Error.fault source)

/-- The value of a YAML text. What is done with a text that holds itself is left open. -/
def parse (text : List Char) (source : String) : Except Fault Value := do
  (← read text source).value?

def parseJson (text : List Char) (path : FilePath) : Except Fault Value :=
  (Json.document text).mapError (Json.Error.fault path text)

/-- Line ends of one or two characters, as line feeds. -/
def unifyBreaks : List Char → List Char
  | [] => []
  | '\r' :: '\n' :: rest => '\n' :: unifyBreaks rest
  | '\r' :: rest => '\n' :: unifyBreaks rest
  | c :: rest => c :: unifyBreaks rest

def readText (files : Files) (path : FilePath) : Except Fault (List Char) :=
  if path.text.toList.contains '\x00' then .error (.impossible "path")
  else match files path with
    | .error defect =>
      .error (.loading s!"Cannot read {path.text}: {defect.message}" (some path.text))
    | .ok bytes =>
      match Text.Utf8.decode? bytes with
      | some text => .ok (unifyBreaks text)
      | none => .error .notUnicode

def isJsonPath (path : FilePath) : Bool := Text.lowerCase path.suffix == ".json"

def readFile (files : Files) (path : FilePath) : Except Fault Yaml.Reading := do
  let text ← readText files path
  if isJsonPath path then (parseJson text path).map .value else read text path.text

def load (files : Files) (path : FilePath) : Except Fault Value := do
  (← readFile files path).value?

end Document

end JsonSchema
