import JsonSchema.Number.Double

/-!
The shortest decimal that reads back as a given double, and how such digits are laid out.

A decimal is a string of digits `0.d₁d₂…dₙ` times a power of ten. For one digit, then two, and
so on, the two decimals around the value are tried; the first that reads back is taken, and of
two that do, the nearer.
-/

namespace JsonSchema

/-- Digits with the power of ten that the point before the first digit stands at. -/
structure Decimal where
  digits : List Char
  point : Int
  deriving Repr

namespace Decimal

/-- Enough places to reach the first digit of the least positive double. -/
def smallPlaces : Nat := 330

/-- The power of ten just above a positive quotient. -/
def pointOf (num den : Nat) : Int :=
  ((Nat.repr (num * Nat.pow 10 smallPlaces / den)).length : Int) - smallPlaces

/-- The quotient scaled so that `count` digits stand before the point. -/
def scaleTo (num den : Nat) (point : Int) (count : Nat) : Nat × Nat :=
  let shift := (count : Int) - point
  if 0 ≤ shift then (num * Nat.pow 10 shift.toNat, den) else (num, den * Nat.pow 10 (-shift).toNat)

/-- The decimals of `count` digits on both sides of a quotient, the nearer one first. -/
def around (num den : Nat) (point : Int) (count : Nat) : List Nat :=
  let (n, d) := scaleTo num den point count
  let low := n / d
  let twice := 2 * (n % d)
  if twice < d ∨ (twice = d ∧ low % 2 = 0) then [low, low + 1] else [low + 1, low]

def dropTrailingZeros (ds : List Char) : List Char :=
  (ds.reverse.dropWhile (· == '0')).reverse

/-- The decimal with the digits of `n`, read as `count` places after the point. -/
def ofDigits (n : Nat) (point : Int) (count : Nat) : Decimal :=
  let ds := (Nat.repr n).toList
  ⟨dropTrailingZeros ds, point + ds.length - count⟩

/-- The first count of digits, from `count` upwards, at which a neighbour reads back. -/
def search (readsBack : Nat → Int → Bool) (num den : Nat) (point : Int) :
    Nat → Nat → Decimal
  | 0, count => ofDigits (num * Nat.pow 10 count / den) point count
  | left + 1, count =>
    match (around num den point count).find? (fun n => readsBack n (point - count)) with
    | some n => ofDigits n point count
    | none => search readsBack num den point left (count + 1)

end Decimal

namespace Double

/-- The shortest decimal that reads back as the double of this exponent and fraction. -/
def shortest (exponent : Fin 2047) (fraction : Fin fractionCount) : Decimal :=
  let n := magnitude exponent fraction
  if n = 0 then ⟨['0'], 1⟩
  else
    let readsBack := fun digits e => ofDecimal false digits e == .finite false exponent fraction
    Decimal.search readsBack n unit (Decimal.pointOf n unit) 17 1

end Double

/-! ### Layout -/

/-- How a decimal is written: within which powers of ten the point is placed among the digits,
and how many digits an exponent has at least. -/
structure DecimalLayout where
  leastPoint : Int
  greatestPoint : Int
  exponentDigits : Nat
  nan : String
  infinity : String

namespace DecimalLayout

def zeros (n : Nat) : List Char := List.replicate n '0'

/-- The digits with the point among them; an integer ends in a point and a zero. -/
def positional (d : Decimal) : List Char :=
  if d.point ≤ 0 then "0.".toList ++ zeros (-d.point).toNat ++ d.digits
  else
    let whole := d.point.toNat
    if d.digits.length ≤ whole then
      d.digits ++ zeros (whole - d.digits.length) ++ ".0".toList
    else d.digits.take whole ++ '.' :: d.digits.drop whole

/-- One digit, the further digits behind a point, and the exponent with its sign. -/
def scientific (layout : DecimalLayout) (d : Decimal) : List Char :=
  let e := d.point - 1
  let digits := (Nat.repr e.natAbs).toList
  let padded := zeros (layout.exponentDigits - digits.length) ++ digits
  let mantissa := match d.digits with
    | [] => []
    | [c] => [c]
    | c :: rest => c :: '.' :: rest
  mantissa ++ 'e' :: (if e < 0 then '-' else '+') :: padded

def write (layout : DecimalLayout) : Double → String
  | .nan => layout.nan
  | .infinite negative => (if negative then "-" else "") ++ layout.infinity
  | .finite negative exponent fraction =>
    let d := Double.shortest exponent fraction
    let body := if layout.leastPoint ≤ d.point ∧ d.point ≤ layout.greatestPoint
      then positional d else layout.scientific d
    String.ofList ((if negative then ['-'] else []) ++ body)

end DecimalLayout

/-- Doubles between a ten thousandth and ten to the sixteenth are written with a point, all
others with an exponent of two digits or more. -/
def roundTripLayout : DecimalLayout where
  leastPoint := -3
  greatestPoint := 16
  exponentDigits := 2
  nan := "nan"
  infinity := "inf"

end JsonSchema
