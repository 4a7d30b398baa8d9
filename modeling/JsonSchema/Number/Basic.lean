import JsonSchema.Number.Shortest

/-!
Numbers: integers of any size and doubles, compared by their exact values.

`Rank` is the extended number line in least positive doubles. A number that is not NaN has one
place on it, and all comparisons are made there.
-/

namespace JsonSchema

/-- A place on the number line, in least positive doubles, or one of its two ends. -/
inductive Rank where
  | negInfinity
  | finite (scaled : Int)
  | posInfinity
  deriving DecidableEq, Repr

namespace Rank

def le : Rank → Rank → Bool
  | negInfinity, _ => true
  | _, posInfinity => true
  | finite a, finite b => a ≤ b
  | _, _ => false

def lt (a b : Rank) : Bool := !le b a

end Rank

inductive Number where
  | int (n : Int)
  | double (x : Double)
  deriving DecidableEq, Repr, Inhabited

namespace Number

def isNaN : Number → Bool
  | int _ => false
  | double x => x.isNaN

/-- The place on the number line; NaN has none. -/
def rank? : Number → Option Rank
  | int n => some (.finite (n * Double.unit))
  | double .nan => none
  | double (.infinite negative) => some (if negative then .negInfinity else .posInfinity)
  | double (.finite negative exponent fraction) =>
    some (.finite (Double.signed negative (Double.magnitude exponent fraction)))

/-- A comparison of exact values; one with NaN does not hold. -/
def compareBy (rel : Rank → Rank → Bool) (a b : Number) : Bool :=
  match a.rank?, b.rank? with
  | some x, some y => rel x y
  | _, _ => false

def lt (a b : Number) : Bool := compareBy Rank.lt a b

def le (a b : Number) : Bool := compareBy Rank.le a b

/-- Equality of exact values: an integer may equal a double, and NaN equals nothing. -/
def eq (a b : Number) : Bool := compareBy (· == ·) a b

def isZero (a : Number) : Bool := eq a (int 0)

/-- Whether a number counts as an integer: all integers, integral doubles and infinities. -/
def isIntegral : Number → Bool
  | int _ => true
  | double (.infinite _) => true
  | double x => x.toInt?.isSome

/-- The nearest double; an integer beyond the largest double has none. -/
def toDouble? : Number → Option Double
  | int n => Double.ofInt? n
  | double x => some x

/-- Whether a finite double leaves no remainder when divided by another double: an infinite
divisor leaves the number itself, and NaN always leaves one. -/
def dividesDouble (divisor : Double) (value : Double) : Bool :=
  match value.scaled?, divisor with
  | some v, .infinite _ => v = 0
  | some v, .finite negative exponent fraction =>
    let d := Double.signed negative (Double.magnitude exponent fraction)
    d ≠ 0 ∧ v % d = 0
  | _, _ => false

/-- Whether `value` is a multiple of `divisor`. Two integers are divided exactly; otherwise both
are taken as doubles, and a number that no double is near to is no multiple. -/
def isMultipleOf (value divisor : Number) : Bool :=
  match value, divisor with
  | int v, int d => v % d = 0
  | v, d =>
    match v.toDouble?, d.toDouble? with
    | some x, some y => x.isFinite && dividesDouble y x
    | _, _ => false

end Number

end JsonSchema
