import JsonSchema.Number.Basic
import JsonSchema.Text.Blank
import JsonSchema.Text.DecimalDigit

/-!
Reading numbers from text.

Blanks around a number and a sign before it are allowed, and single underscores between digits.
Digits may be of any script.
-/

namespace JsonSchema

/-- The longest integer that is written or read in decimal. -/
def digitLimit : Nat := 4300

def withinDigitLimit (n : Int) : Bool := n.natAbs < Nat.pow 10 digitLimit

namespace Reading

def trim (cs : List Char) : List Char :=
  ((cs.dropWhile Text.isBlank).reverse.dropWhile Text.isBlank).reverse

/-- The value of a digit or letter in bases beyond ten. -/
def digit? (base : Nat) (c : Char) : Option Nat :=
  let n := if 'a' ≤ c ∧ c ≤ 'z' then c.toNat - 87
    else if 'A' ≤ c ∧ c ≤ 'Z' then c.toNat - 55
    else (Text.decimalValue? c).getD base
  if n < base then some n else none

/-- Digits with single underscores between them. `again` says that a digit has to come next. -/
def digits? (base : Nat) : (again : Bool) → List Char → Option (List Nat)
  | again, [] => if again then none else some []
  | again, c :: rest =>
    if c = '_' then if again then none else digits? base true rest
    else do
      let d ← digit? base c
      return d :: (← digits? base false rest)

def ofDigits (base : Nat) (ds : List Nat) : Nat := ds.foldl (fun n d => n * base + d) 0

def sign : List Char → Bool × List Char
  | '-' :: rest => (true, rest)
  | '+' :: rest => (false, rest)
  | cs => (false, cs)

/-- The letter that may stand behind a zero to announce a base. -/
def baseLetter (base : Nat) : Option Char :=
  if base = 2 then some 'b' else if base = 8 then some 'o' else if base = 16 then some 'x'
  else none

/-- Digits behind the announcement of their base, which an underscore may end. -/
def withoutBase (base : Nat) (cs : List Char) : List Char :=
  match cs with
  | '0' :: letter :: rest =>
    if baseLetter base = some letter.toLower then
      match rest with
      | '_' :: rest => rest
      | rest => rest
    else cs
  | cs => cs

end Reading

inductive IntegerDefect where
  | notANumber
  | tooManyDigits
  deriving DecidableEq, Repr

def readInteger (base : Nat) (cs : List Char) : Except IntegerDefect Int :=
  let (negative, body) := Reading.sign (Reading.trim cs)
  match Reading.digits? base true (Reading.withoutBase base body) with
  | none => .error .notANumber
  | some ds =>
    if base = 10 ∧ digitLimit < ds.length then .error .tooManyDigits
    else
      let n : Int := Reading.ofDigits base ds
      .ok (if negative then -n else n)

namespace Reading

/-- Digits before and behind a point, at least one of them. -/
structure Mantissa where
  whole : List Nat
  fraction : List Nat

def digitSpan (cs : List Char) : List Char × List Char :=
  cs.span fun c => Text.isDecimal c || c == '_'

def someDigits? (cs : List Char) : Option (List Nat) :=
  if cs.isEmpty then some [] else digits? 10 true cs

def mantissa? (cs : List Char) : Option (Mantissa × List Char) := do
  let (whole, rest) := digitSpan cs
  let (fraction, rest) := match rest with
    | '.' :: rest => digitSpan rest
    | rest => ([], rest)
  let whole ← someDigits? whole
  let fraction ← someDigits? fraction
  if whole.isEmpty && fraction.isEmpty then none else some (⟨whole, fraction⟩, rest)

/-- An exponent that ends the text, or none at its end. -/
def exponent? : List Char → Option Int
  | [] => some 0
  | c :: rest =>
    if c = 'e' ∨ c = 'E' then do
      let (negative, rest) := sign rest
      let n : Int := ofDigits 10 (← digits? 10 true rest)
      return if negative then -n else n
    else none

def unsignedDouble? (negative : Bool) (cs : List Char) : Option Double :=
  let word := String.ofList (cs.map Char.toLower)
  if word = "inf" ∨ word = "infinity" then some (.infinite negative)
  else if word = "nan" then some .nan
  else do
    let (m, rest) ← mantissa? cs
    let e ← exponent? rest
    return Double.ofDecimal negative (ofDigits 10 (m.whole ++ m.fraction))
      (e - m.fraction.length)

end Reading

/-- The double nearest to the number that a text is; infinity and NaN have words. -/
def readDouble? (cs : List Char) : Option Double :=
  let (negative, body) := Reading.sign (Reading.trim cs)
  Reading.unsignedDouble? negative body

end JsonSchema
