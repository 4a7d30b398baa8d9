import JsonSchema.Regex.Matcher
import JsonSchema.Regex.Parser
import JsonSchema.Validation.Violation
import JsonSchema.Value.Traits

/-!
The checks that look at one value alone: its type, its literals, and the keywords of strings and
numbers.

Each check answers with the reasons to refuse the value, none if it passes. Checks follow one
another in a fixed order and none stops the next.
-/

namespace JsonSchema

abbrev Reasons := Except Fault (List Reason)

namespace Validation

/-- One reason if a check fails. A reason whose literals cannot be written is a fault. -/
def reportIf (failed : Bool) (reason : Reason) : Reasons :=
  if failed then if reason.canShow then .ok [reason] else .error .tooManyDigits
  else .ok []

def whenGiven (keywords : Entries) (name : String) (check : Value → Reasons) : Reasons :=
  match keywords.given? name with
  | some v => check v
  | none => .ok []

/-! ### Type and literals -/

def typeReasons (expected : JsonType) (value : Value) : List Reason :=
  (value.mismatch? expected).toList

def constReasons (keywords : Entries) (form : LiteralForm) (value : Value) : Reasons :=
  match keywords.defined? "const" with
  | some literal => reportIf (!Value.jsonEqual value literal) (.const form literal)
  | none => .ok []

def enumReasons (keywords : Entries) (form : LiteralForm) (value : Value) : Reasons :=
  whenGiven keywords "enum" fun literals => do
    let candidates ← literals.elements
    reportIf (!Value.jsonContains candidates value) (.enum form candidates)

/-- Type, then `const`, then `enum`. -/
def guardReasons (keywords : Entries) (expected : JsonType) (form : LiteralForm)
    (value : Value) : Reasons := do
  let const ← constReasons keywords form value
  let enum ← enumReasons keywords form value
  return typeReasons expected value ++ const ++ enum

/-! ### Strings -/

/-- A pattern that is no string cannot be looked for in one. Bytes are still read as a pattern
first, and may be a broken one. -/
def bytesPattern (bs : List UInt8) (location : Location) : Except Fault Bool :=
  let text := String.ofList (bs.map fun b => Char.ofNat b.toNat)
  match Regex.Pattern.parse text with
  | .error e =>
    match e.message? text with
    | some cause =>
      .error (.schema (.badPattern (Value.bytes bs).text cause) location)
    | none => .error .tooLarge
  | .ok _ => .error (.misuse (.notAText "str"))

/-- Whether a pattern occurs in a text. A broken pattern is a defect at its place. -/
def patternOccurs (pattern : Value) (text : Text) (location : Location) : Except Fault Bool :=
  match pattern with
  | .string p =>
    match Regex.Pattern.parse p with
    | .ok r => .ok (r.occursIn text)
    | .error .tooLarge => .error .tooLarge
    | .error .twoScripts => .error .twoScripts
    | .error (.malformed reason position) =>
      .error (.schema (.badPattern p
        (((Regex.Error.malformed reason position).message? p).getD "")) location)
  | .bytes bs => bytesPattern bs location
  | other => .error (.misuse (.notAPattern other.storedKindName))

def minLengthReasons (keywords : Entries) (text : Text) : Reasons :=
  whenGiven keywords "minLength" fun bound => do
    reportIf (Number.lt (.int text.length) (← bound.comparable)) (.shorterThan bound)

def maxLengthReasons (keywords : Entries) (text : Text) : Reasons :=
  whenGiven keywords "maxLength" fun bound => do
    reportIf (Number.lt (← bound.comparable) (.int text.length)) (.longerThan bound)

def patternReasons (keywords : Entries) (text : Text) (location : Location) : Reasons :=
  whenGiven keywords "pattern" fun pattern => do
    let found ← patternOccurs pattern text (location.keyword "pattern")
    reportIf (!found) (.pattern pattern.text)

def textReasons (keywords : Entries) (text : Text) (location : Location) : Reasons := do
  let short ← minLengthReasons keywords text
  let long ← maxLengthReasons keywords text
  let pattern ← patternReasons keywords text location
  return short ++ long ++ pattern

def stringReasons (keywords : Entries) (value : Value) (location : Location) : Reasons := do
  let guard ← guardReasons keywords .string .quoted value
  match value with
  | .string text => return guard ++ (← textReasons keywords text location)
  | _ => return guard

/-! ### Numbers -/

def boundReasons (keywords : Entries) (x : Number) (bound : Bound) : Reasons :=
  whenGiven keywords bound.keyword fun limit => do
    reportIf (bound.isViolated x (← limit.comparable)) (.outside bound limit)

/-- A divisor of zero asks for nothing. Only a number without a finite double passes by a divisor
that is no number, and it is no multiple of it. -/
def multipleReasons (keywords : Entries) (x : Number) : Reasons :=
  whenGiven keywords "multipleOf" fun divisor =>
    match divisor.asNumber? with
    | some d => reportIf (!d.isZero && !x.isMultipleOf d) (.multipleOf divisor)
    | none =>
      if x.toDouble?.any Double.isFinite then
        .error (.misuse (.notANumber divisor.storedKindName))
      else reportIf true (.multipleOf divisor)

def magnitudeReasons (keywords : Entries) (x : Number) : Reasons := do
  let minimum ← boundReasons keywords x .minimum
  let exclusiveMinimum ← boundReasons keywords x .exclusiveMinimum
  let maximum ← boundReasons keywords x .maximum
  let exclusiveMaximum ← boundReasons keywords x .exclusiveMaximum
  let multiple ← multipleReasons keywords x
  return minimum ++ exclusiveMinimum ++ maximum ++ exclusiveMaximum ++ multiple

def numberReasons (keywords : Entries) (value : Value) : Reasons := do
  let guard ← guardReasons keywords .number .plain value
  match value with
  | .number x => return guard ++ (← magnitudeReasons keywords x)
  | _ => return guard

/-- A number that is no integer is told so before all else. -/
def integerReasons (keywords : Entries) (value : Value) : Reasons := do
  let reasons ← numberReasons keywords value
  match value with
  | .number x => return if x.isIntegral then reasons else .notInteger :: reasons
  | _ => return reasons

end Validation

end JsonSchema
