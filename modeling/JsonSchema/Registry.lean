import JsonSchema.Document.Load
import JsonSchema.Validation.Validate

/-!
Schemas under names.

A name is given once. A step that fails leaves all names as they are.
-/

namespace JsonSchema

/-- Named schemas, in the order in which they were registered. -/
structure Registry where
  schemas : List (String × Value)
  deriving Repr

namespace Registry

def empty : Registry := ⟨[]⟩

def names (r : Registry) : List String := r.schemas.map (·.1)

def contains (r : Registry) (name : String) : Bool := r.names.contains name

def find? (r : Registry) (name : String) : Option Value :=
  (r.schemas.find? fun s => s.1 == name).map (·.2)

def get (r : Registry) (name : String) : Except Fault Value :=
  match r.find? name with
  | some schema => .ok schema
  | none => .error (.nameUnknown name)

/-! ### Changing a registry -/

/-- A computation on a registry: the registry that it leaves, and its outcome. What was registered
before a fault stays registered. -/
def Session (α : Type) : Type := Registry → Registry × Outcome α

namespace Session

variable {α β : Type}

def andThen (x : Session α) (f : α → Session β) : Session β := fun r =>
  match x r with
  | (next, ⟨notices, .ok a⟩) =>
    let (last, o) := f a next
    (last, ⟨notices ++ o.notices, o.result⟩)
  | (next, ⟨notices, .error e⟩) => (next, ⟨notices, .error e⟩)

def read (f : Registry → Outcome α) : Session α := fun r => (r, f r)

instance : Monad Session where
  pure a := read fun _ => pure a
  bind := andThen

instance : MonadLift Outcome Session where
  monadLift o := read fun _ => o

end Session

def add (r : Registry) (name : String) (schema : Value) : Registry :=
  ⟨r.schemas ++ [(name, schema)]⟩

def store (name : String) (schema : Value) : Session Unit := fun r => (r.add name schema, pure ())

def requireFree (r : Registry) (name : String) : Except Fault Unit :=
  if r.contains name then .error (.nameTaken name) else .ok ()

def register (name : String) (schema : Value) : Session Unit := do
  Session.read fun r => .ofExcept (r.requireFree name)
  requireSchema schema
  store name schema
  Outcome.notify (.registered name)

/-- A document that may be a schema as a whole. -/
def schemaOf (path : String) (document : Value) : Except Fault Value :=
  if isSchema document then .ok document
  else
    .error (.loading
      ("Schema document must be a boolean or an object, got " ++ document.storedKindName)
      (some path))

def loadFile (files : Files) (name path : String) : Session Value := do
  let schema ← schemaOf path (← Document.load files (.ofText path))
  register name schema
  Outcome.notify (.loaded name path)
  return schema

/-! ### Validating -/

def validate (r : Registry) (name : String) (value : Value) : Outcome Verdict := do
  let verdict ← JsonSchema.validate (← r.get name) value .start
  Outcome.notify (match verdict with
    | .valid _ => .valid name
    | .invalid vs => .violated vs.length name)
  return verdict

/-- The answer for a text that is no document: one violation at the root. -/
def unreadable (schema : Value) (message : String) : Verdict :=
  .invalid [⟨.undefined, schema, .stated message, .here, .here⟩]

def validateDocument (r : Registry) (name content : String) : Outcome Verdict := do
  let schema ← r.get name
  match Document.parse content.toList Document.noSource with
  | .ok value => r.validate name value
  | .error (.loading message _) => return unreadable schema message
  | .error fault => throw fault

/-! ### Steps -/

inductive Step where
  | register (name : String) (schema : Value)
  | loadFile (name path : String)
  | list
  | get (name : String)
  | validate (name : String) (value : Value)
  | validateDocument (name content : String)
  deriving Repr

inductive Answer where
  | done
  | schema (schema : Value)
  | names (names : List String)
  | verdict (verdict : Verdict)

def perform (files : Files) : Step → Session Answer
  | .register name schema => do
    register name schema
    return .done
  | .loadFile name path => return .schema (← loadFile files name path)
  | .list => .read fun r => pure (.names r.names)
  | .get name => .read fun r => Answer.schema <$> Outcome.ofExcept (r.get name)
  | .validate name value => .read fun r => Answer.verdict <$> r.validate name value
  | .validateDocument name content =>
    .read fun r => Answer.verdict <$> r.validateDocument name content

/-- The answers to steps, one after the other, each step with the files of its time. -/
def runEach (r : Registry) : List (Files × Step) → Registry × List (Outcome Answer)
  | [] => (r, [])
  | (files, step) :: rest =>
    let (next, answer) := perform files step r
    let (last, answers) := runEach next rest
    (last, answer :: answers)

def run (files : Files) (r : Registry) (steps : List Step) : Registry × List (Outcome Answer) :=
  r.runEach (steps.map (files, ·))

end Registry

end JsonSchema
