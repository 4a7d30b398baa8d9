/-!
Sets of characters given by ranges of their code points.
-/

namespace JsonSchema.Text

/-- The first and the last code point of a range. -/
abbrev CharRange := Nat × Nat

def CharRange.contains (r : CharRange) (code : Nat) : Bool := r.1 ≤ code && code ≤ r.2

def inRanges (ranges : Array CharRange) (c : Char) : Bool :=
  ranges.any fun r => r.contains c.toNat

end JsonSchema.Text
