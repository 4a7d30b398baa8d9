/-!
Binary floating point numbers of 64 bits, as data.

A finite double is a sign, a biased exponent and a fraction. Every finite double is a whole
multiple of the least positive one, so `scaled`, that multiple, is its exact value: order,
equality and remainders are decided on it.
-/

namespace JsonSchema

/-- How many fractions there are for one exponent: two to the power of 52. -/
abbrev Double.fractionCount : Nat := 0x10000000000000

inductive Double where
  | nan
  | infinite (negative : Bool)
  | finite (negative : Bool) (exponent : Fin 2047) (fraction : Fin Double.fractionCount)
  deriving DecidableEq, Repr, Inhabited

namespace Double

/-- How many least positive doubles make one: two to this power. -/
def unitBits : Nat := 1074

/-- The number one, in least positive doubles. -/
def unit : Nat := Nat.pow 2 unitBits

/-- The size of a finite double, in least positive doubles. -/
def magnitude (exponent : Fin 2047) (fraction : Fin fractionCount) : Nat :=
  if exponent.val = 0 then fraction.val
  else (fractionCount + fraction.val) * Nat.pow 2 (exponent.val - 1)

def signed (negative : Bool) (n : Nat) : Int := if negative then -(n : Int) else n

/-- The exact value in least positive doubles, for finite doubles only. -/
def scaled? : Double → Option Int
  | nan => none
  | infinite _ => none
  | finite negative exponent fraction => some (signed negative (magnitude exponent fraction))

def isNaN : Double → Bool
  | nan => true
  | _ => false

def isFinite : Double → Bool
  | finite .. => true
  | _ => false

def isNegative : Double → Bool
  | nan => false
  | infinite negative => negative
  | finite negative .. => negative

/-- The integer that a finite double equals, if it is one. -/
def toInt? (x : Double) : Option Int :=
  x.scaled?.bind fun s => if s % unit = 0 then some (s / unit) else none

def zero : Double := .finite false 0 0

/-! ### Building a double from its size -/

/-- The double whose size is `n` least positive doubles, for an `n` of at most 53 significant
bits; a size past the largest finite double is infinite. -/
def ofMagnitude (negative : Bool) (n : Nat) : Double :=
  if n < fractionCount then .finite negative 0 (Fin.ofNat fractionCount n)
  else
    let exponent := n.log2 - 51
    if h : exponent < 2047 then
      .finite negative ⟨exponent, h⟩ (Fin.ofNat fractionCount (n / Nat.pow 2 (exponent - 1)))
    else .infinite negative

/-- A quotient rounded to the nearest integer, halves to the even neighbour. -/
def roundDiv (num den : Nat) : Nat :=
  let q := num / den
  let twice := 2 * (num % den)
  if den < twice ∨ (twice = den ∧ q % 2 = 1) then q + 1 else q

/-- How many low bits a size of `n` has beyond the 53 that a double holds. -/
def excessBits (n : Nat) : Nat := n.log2 - 52

/-- The double nearest to the quotient of two naturals, halves to the even fraction. -/
def ofRatio (negative : Bool) (num den : Nat) : Double :=
  let shift := excessBits (num * unit / den)
  ofMagnitude negative (roundDiv (num * unit) (den * Nat.pow 2 shift) * Nat.pow 2 shift)

/-- The double nearest to a decimal: the digits `n` times ten to the power `e`. A decimal far
outside the range of doubles is settled by its size alone. -/
def ofDecimal (negative : Bool) (n : Nat) (e : Int) : Double :=
  let point := ((Nat.repr n).length : Int) + e
  if n = 0 ∨ point < -330 then .finite negative 0 0
  else if 320 < point then .infinite negative
  else if 0 ≤ e then ofRatio negative (n * Nat.pow 10 e.toNat) 1
  else ofRatio negative n (Nat.pow 10 (-e).toNat)

/-- The double nearest to an integer; an integer beyond the largest double has none. -/
def ofInt? (n : Int) : Option Double :=
  let x := ofRatio (decide (n < 0)) n.natAbs 1
  if x.isFinite then some x else none

/-! ### Arithmetic -/

/-- The nearest double to a product. Zero times infinity is NaN. -/
def mul (x y : Double) : Double :=
  let negative := x.isNegative != y.isNegative
  match x.scaled?, y.scaled? with
  | some s, some t => ofRatio negative (s.natAbs * t.natAbs) (unit * unit)
  | some s, none => if s = 0 ∨ y.isNaN then .nan else .infinite negative
  | none, some t => if t = 0 ∨ x.isNaN then .nan else .infinite negative
  | none, none => if x.isNaN ∨ y.isNaN then .nan else .infinite negative

/-- The nearest double to a sum. Opposite infinities have the sum NaN, and a sum of zero is negative
if both of its parts are. -/
def add (x y : Double) : Double :=
  match x.scaled?, y.scaled? with
  | some s, some t =>
    let sum := s + t
    ofRatio (if sum = 0 then x.isNegative && y.isNegative else decide (sum < 0)) sum.natAbs unit
  | some _, none => y
  | none, some _ => x
  | none, none => if x = y then x else .nan

end Double

end JsonSchema
