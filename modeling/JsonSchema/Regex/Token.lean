import JsonSchema.Regex.Syntax

/-!
The pieces that a pattern is read in: single characters, and characters behind a backslash.
-/

namespace JsonSchema.Regex

structure Token where
  escaped : Bool
  point : Point
  deriving DecidableEq, Repr

namespace Token

def plain (c : Char) : Token := ⟨false, c⟩

/-- The character that stands for the point. No half of a pair has a meaning of its own. -/
def char (t : Token) : Char := t.point.shown

def width (t : Token) : Nat := if t.escaped then 2 else 1

def points (t : Token) : List Point := if t.escaped then ['\\', t.point] else [t.point]

def text (t : Token) : Text := .ofPoints t.points

def isOneOf (t : Token) (cs : List Char) : Bool := !t.escaped && cs.contains t.char

end Token

/-- What is left of a pattern, and whether it ends in a backslash with nothing behind it. -/
structure Source where
  rest : List Token
  dangling : Bool
  deriving Repr

namespace Source

def ofPoints : List Point → Source
  | [] => ⟨[], false⟩
  | .char '\\' :: p :: ps => let s := ofPoints ps; ⟨⟨true, p⟩ :: s.rest, s.dangling⟩
  | p :: ps =>
    if p = .char '\\' then ⟨[], true⟩ else let s := ofPoints ps; ⟨⟨false, p⟩ :: s.rest, s.dangling⟩

def next? (s : Source) : Option Token := s.rest.head?

def nextIs (s : Source) (c : Char) : Bool := s.next? == some (.plain c)

def nextIsOneOf (s : Source) (cs : List Char) : Bool := s.next?.any fun t => t.isOneOf cs

def width (s : Source) : Nat :=
  s.rest.foldl (fun n t => n + t.width) 0 + (if s.dangling then 1 else 0)

/-- Whether the next thing to read is the backslash that ends the text. -/
def isDangling (s : Source) : Bool := s.dangling && s.rest.isEmpty

end Source

end JsonSchema.Regex
