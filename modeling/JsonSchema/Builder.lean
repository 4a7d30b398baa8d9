import JsonSchema.Value.Traits

/-!
Building schemas: nodes of each type, objects with required and optional members, references, and
collections of named definitions.

A `Builder` stands for one definition of a collection. It writes references into the collection
and titles objects after the definition.
-/

namespace JsonSchema

def Entries.update (entries more : Entries) : Entries :=
  more.foldl (fun done e => done.insert e.1 e.2) entries

namespace Builder

/-- A node of a type with further keywords, which may declare another type. -/
def typed (type : JsonType) (keywords : Entries) : Entries :=
  Entries.update [(.string "type", .string type.name)] keywords

def reference (target : Value) : Value := .object [(.string "$ref", target)]

def properties (required optional : Option Entries) : Entries :=
  Entries.update (required.getD []) (optional.getD [])

/-- An object node. It refuses additional members unless the keywords say otherwise, and is bare
if nothing is given. -/
def object (title : Value) (required optional : Option Entries) (keywords : Entries) : Value :=
  if title.isNull && required.isNone && optional.isNone && keywords.isEmpty then
    .object [(.string "type", .string "object")]
  else
    let titled : Entries := if title.isTruthy then [(.string "title", title)] else []
    let names : Entries := match required with
      | some members => [(.string "required", .list (Entries.keys members))]
      | none => []
    let start : Entries := (.string "type", .string "object") :: titled ++ names
      ++ [(.string "properties", .object (properties required optional))]
    let closed := (keywords.named? "additionalProperties").getD (.bool false)
    .object ((start.update keywords).insert (.string "additionalProperties") closed)

end Builder

structure Builder where
  location : Value
  name : Value
  deriving Repr

namespace Builder

def address (location name : Value) : Text := location.text ++ "/" ++ name.text

def ref (b : Builder) (name : Value) : Value := reference (.string (address b.location name))

/-- The title of an object: its own, or the name of the definition. -/
def titleFor (b : Builder) (title : Value) : Value := if title.isTruthy then title else b.name

end Builder

/-! ### Calls by name -/

/-- A call of a function by its name, with arguments by position and by name. -/
structure BuilderCall where
  function : String
  arguments : List Value
  keywords : Entries
  deriving Repr

namespace BuilderCall

def refuse {α : Type} (call : BuilderCall) : Except Fault α :=
  .error (.misuse (.badCall call.function))

def typedFunction? : String → Option JsonType
  | "string" => some .string
  | "number" => some .number
  | "integer" => some .integer
  | "boolean" => some .boolean
  | "null" => some .null
  | "array" => some .array
  | _ => none

def take (keywords : Entries) (name : String) : Value × Entries :=
  ((keywords.named? name).getD .null, keywords.erase (.string name))

/-- Required members of a call. A value without elements stands for no members. -/
def requiredMembers (call : BuilderCall) : Value → Except Fault (Option Entries)
  | .null => .ok none
  | .object members => .ok (some members)
  | .array _ [] | .string "" => .ok (some [])
  | _ => refuse call

/-- Optional members of a call. An empty value stands for no members. -/
def optionalMembers (call : BuilderCall) : Value → Except Fault (Option Entries)
  | .null => .ok none
  | .object members => .ok (some members)
  | v => if v.isTruthy then refuse call else .ok (some [])

/-- The one argument of a call that may be given by position or by a name, and the keywords that
are left. -/
def oneArgument (call : BuilderCall) (name : String) : Except Fault (Value × Entries) :=
  match call.arguments, call.keywords.named? name with
  | [v], none => .ok (v, call.keywords)
  | [], some v => .ok (v, call.keywords.erase (.string name))
  | _, _ => refuse call

def onlyArgument (call : BuilderCall) (name : String) : Except Fault Value := do
  let (v, rest) ← call.oneArgument name
  if rest.isEmpty then return v else refuse call

def makeObject (call : BuilderCall) (builder : Option Builder) : Except Fault Value := do
  if !call.arguments.isEmpty then refuse call
  else
    let (title, rest) := take call.keywords "title"
    let (required, rest) := take rest "required"
    let (optional, keywords) := take rest "optional"
    let title := match builder with
      | some b => b.titleFor title
      | none => title
    let required ← requiredMembers call required
    let optional ← optionalMembers call optional
    return Builder.object title required optional keywords

def makeReference (call : BuilderCall) : Option Builder → Except Fault Value
  | some b => do return b.ref (← call.onlyArgument "name")
  | none => do return Builder.reference (← call.onlyArgument "location")

/-- An array of elements that are all one definition of the collection. -/
def makeArrayOf (call : BuilderCall) (b : Builder) : Except Fault Value := do
  let (name, keywords) ← call.oneArgument "name"
  if (keywords.named? "items").isSome then refuse call
  else
    let items : Entries := [(.string "items", b.ref name)]
    return .object (Builder.typed .array (items.update keywords))

def run (call : BuilderCall) (builder : Option Builder) : Except Fault Value :=
  match typedFunction? call.function with
  | some type =>
    if call.arguments.isEmpty then .ok (.object (Builder.typed type call.keywords))
    else refuse call
  | none =>
    match call.function, builder with
    | "object_", _ => makeObject call builder
    | "ref", _ => makeReference call builder
    | "array_of", some b => makeArrayOf call b
    | function, _ => .error (.noMembers function)

end BuilderCall

/-! ### Definitions -/

/-- Named schemas that are addressed below one location. -/
structure Definitions where
  location : String
  schemas : Entries
  deriving Repr

namespace Definitions

def create (location : String) : Definitions := ⟨location, []⟩

def defaultLocation : String := "#/definitions"

/-- Adds a definition; one of the same name is replaced in its place. -/
def add (defs : Definitions) (name : String) (schema : Value) : Definitions :=
  { defs with schemas := defs.schemas.insert (.string name) schema }

def builder (defs : Definitions) (name : String) : Builder :=
  ⟨.string defs.location, .string name⟩

def addCall (defs : Definitions) (name : String) (call : BuilderCall) :
    Except Fault Definitions := do
  return defs.add name (← call.run (some (defs.builder name)))

def ref (defs : Definitions) (name : String) : String := defs.location ++ "/" ++ name

def get (defs : Definitions) (name : String) : Except Fault Value :=
  match defs.schemas.named? name with
  | some schema => .ok schema
  | none => .error (.definitionUnknown name)

end Definitions

end JsonSchema
