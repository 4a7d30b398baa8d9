import JsonSchema.Validation.Place
import JsonSchema.Validation.Scalar

/-!
The checks of objects.

Declared properties are merged first, then all members whose names match a pattern; the members
that neither step consumed are the additional ones. A declared or additional member that is
refused but falsy is passed over in silence: the check for required members speaks for it.
-/

namespace JsonSchema.Validation

/-- What the steps so far made of an object: its members, the keys that were merged, and the
violations. -/
structure ObjectPart where
  members : Entries
  consumed : List Value
  violations : List Violation

namespace ObjectPart

def empty : ObjectPart := ⟨[], [], []⟩

def hasConsumed (part : ObjectPart) (key : Value) : Bool :=
  part.consumed.any fun k => Value.same k key

/-- Takes over what became of a member: its result, or its violations and no member. -/
def merge (part : ObjectPart) (key : Value) (verdict : Verdict) : ObjectPart where
  consumed := part.consumed ++ [key]
  members := match verdict with
    | .valid result =>
      if result.isUndefined then part.members.erase key else part.members.insert key result
    | .invalid _ => part.members.erase key
  violations := part.violations ++ verdict.violations

def report (part : ObjectPart) (violations : List Violation) : ObjectPart :=
  { part with violations := part.violations ++ violations }

end ObjectPart

/-! ### Required members and counts -/

/-- The keys whose members are not absent. -/
def definedKeys (members : Entries) : List Value :=
  (List.filter (fun e => !e.2.isUndefined) members).map (·.1)

/-- Names for a listing; only strings can be listed. -/
def listedNames : List Value → Except Fault (List Text)
  | [] => .ok []
  | .string s :: rest => return s :: (← listedNames rest)
  | v :: _ => .error (.misuse (.notAText v.storedKindName))

/-- The required names that no defined member has. -/
def missingNames (defined : List Value) : List Value → Except Fault (List Value)
  | [] => .ok []
  | name :: rest =>
    if !name.isKey then .error (.misuse (.notAKey name.storedKindName))
    else do
      let missing ← missingNames defined rest
      return if defined.any (fun k => Value.same k name) then missing else name :: missing

def requiredReasons (keywords members : Entries) : Reasons :=
  match (keywords.named? "required").filter Value.isTruthy with
  | none => .ok []
  | some names => do
    let missing ← missingNames (definedKeys members) (← names.elements)
    if missing.isEmpty then return []
    else return [.missing (← listedNames missing)]

def minCountReasons (keywords members : Entries) : Reasons :=
  match (keywords.named? "minProperties").filter Value.isTruthy with
  | none => .ok []
  | some bound => do
    reportIf (Number.lt (.int members.length) (← bound.comparable)) (.fewerProperties bound)

def maxCountReasons (keywords members : Entries) : Reasons :=
  whenGiven keywords "maxProperties" fun bound => do
    reportIf (Number.lt (← bound.comparable) (.int members.length)) (.moreProperties bound)

/-! ### Members -/

def isSuppressed (member : Value) (verdict : Verdict) : Except Fault Bool :=
  if verdict.isValid then .ok false else member.isFalsy

section

variable (validate : Validator)

def mergeProperties (members : Entries) (place : Place) :
    Entries → ObjectPart → Outcome ObjectPart
  | [], part => return part
  | (name, child) :: rest, part => do
    let member := members.get name
    let verdict ← validate child member (place.property "properties" name)
    if ← liftM (isSuppressed member verdict) then mergeProperties members place rest part
    else mergeProperties members place rest (part.merge name verdict)

def mergeMatching (pattern child : Value) (place : Place) :
    Entries → ObjectPart → Outcome ObjectPart
  | [], part => return part
  | (key, member) :: rest, part => do
    let location := (place.schema.keyword "patternProperties").member pattern
    if ← liftM (patternOccurs pattern key.text location) then
      let verdict ← validate child member (place.patternProperty pattern key)
      mergeMatching pattern child place rest (part.merge key verdict)
    else mergeMatching pattern child place rest part

def mergePatterns (members : Entries) (place : Place) :
    Entries → ObjectPart → Outcome ObjectPart
  | [], part => return part
  | (pattern, child) :: rest, part => do
    mergePatterns members place rest (← mergeMatching validate pattern child place members part)

def mergeAdditional (schema : Value) (place : Place) :
    Entries → ObjectPart → Outcome ObjectPart
  | [], part => return part
  | (key, member) :: rest, part => do
    let verdict ← validate schema member (place.additionalProperty key)
    if ← liftM (isSuppressed member verdict) then mergeAdditional schema place rest part
    else mergeAdditional schema place rest (part.merge key verdict)

/-- The defined members that were not consumed. -/
def extraMembers (members : Entries) (part : ObjectPart) : Entries :=
  List.filter (fun e => !e.2.isUndefined && !part.hasConsumed e.1) members

/-- Additional members are taken as they are, refused all together, or validated. -/
def additionalPart (keywords members : Entries) (place : Place) (part : ObjectPart) :
    Outcome ObjectPart :=
  let extra := extraMembers members part
  if extra.isEmpty then return part
  else match keywords.defined? "additionalProperties" with
    | none | some (.bool true) =>
      return { part with
        members := extra.foldl (fun done e => done.insert e.1 e.2) part.members }
    | some (.bool false) =>
      return part.report [⟨.object members, .bool false, .additional (Entries.keys extra),
        place.schema.keyword "additionalProperties", place.value⟩]
    | some schema => mergeAdditional validate schema place extra part

/-- One key against the schema of names. A schema that is an object applies as one of strings,
whatever type it declares. -/
def nameVerdict (schema key : Value) (place : Place) : Outcome Verdict :=
  match schema with
  | .object keywords => do
    let name := Value.string key.text
    let reasons ← liftM (stringReasons keywords name place.schema)
    return verdictOf name (violationsAt keywords name place reasons)
  | other => validate other (.string key.text) place

def nameViolations (schema : Value) (place : Place) : Entries → Outcome (List Violation)
  | [] => return []
  | (key, _) :: rest => do
    let verdict ← nameVerdict validate schema key place
    return verdict.violations ++ (← nameViolations schema place rest)

def namesPart (keywords members : Entries) (place : Place) (part : ObjectPart) :
    Outcome ObjectPart :=
  match keywords.defined? "propertyNames" with
  | none => return part
  | some schema => do
    return part.report (← nameViolations validate schema (place.keyword "propertyNames") members)

/-- All checks of an object's members, in their order. -/
def membersPart (keywords members : Entries) (place : Place) : Outcome ObjectPart := do
  let value := Value.object members
  let about := violationsAt keywords value place
  let required ← liftM (requiredReasons keywords members)
  let part := ObjectPart.empty.report (about required)
  let part ← mergeProperties validate members place
    (← liftM (keywords.children "properties")) part
  let part ← mergePatterns validate members place
    (← liftM (keywords.children "patternProperties")) part
  let part ← additionalPart validate keywords members place part
  let part ← namesPart validate keywords members place part
  let fewer ← liftM (minCountReasons keywords members)
  let more ← liftM (maxCountReasons keywords members)
  return part.report (about fewer ++ about more)

def validateObject (keywords : Entries) (value : Value) (place : Place) : Outcome Verdict := do
  let guard := violationsAt keywords value place
    (← liftM (guardReasons keywords .object .json value))
  match value with
  | .object members =>
    let part ← membersPart validate keywords members place
    return verdictOf (.object part.members) (guard ++ part.violations)
  | _ => return verdictOf (.object []) guard

end

end JsonSchema.Validation
