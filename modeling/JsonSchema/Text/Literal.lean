import JsonSchema.Text.Printable
import JsonSchema.Text.Quoted

/-!
String and byte literals, as they stand in a listing of types or in the name of a member.

A literal is set in single quotes, or in double quotes when it holds single ones only.
-/

namespace JsonSchema.Text

/-- The quote that a literal is set in. -/
def literalQuote (cs : List Char) : Char :=
  if cs.contains '\'' && !cs.contains '"' then '"' else '\''

/-- Escapes shared by strings and bytes. -/
def literalEscape? (quote c : Char) : Option (List Char) :=
  if c = quote ∨ c = '\\' then some ['\\', c]
  else if c = '\n' then some ['\\', 'n']
  else if c = '\r' then some ['\\', 'r']
  else if c = '\t' then some ['\\', 't']
  else none

def hexEscape (code : Nat) : List Char :=
  if code < 0x100 then '\\' :: 'x' :: hexDigits 2 code
  else if code < 0x10000 then '\\' :: 'u' :: hexDigits 4 code
  else '\\' :: 'U' :: hexDigits 8 code

def literalChar (quote c : Char) : List Char :=
  match literalEscape? quote c with
  | some escape => escape
  | none => if isPrintable c then [c] else hexEscape c.toNat

def literalPoint (quote : Char) : Point → List Char
  | .char c => literalChar quote c
  | .half h => hexEscape h.code

/-- Halves of pairs are not printable. -/
def stringLiteral (t : Text) : String :=
  let quote := literalQuote t.chars
  String.ofList (quote :: t.points.flatMap (literalPoint quote) ++ [quote])

def literalByte (quote : Char) (b : UInt8) : List Char :=
  let c := Char.ofNat b.toNat
  match literalEscape? quote c with
  | some escape => escape
  | none => if 32 ≤ b.toNat ∧ b.toNat < 127 then [c] else hexEscape b.toNat

/-- Bytes are written as the characters of ASCII where they are such, behind a `b`. -/
def bytesLiteral (bs : List UInt8) : String :=
  let quote := literalQuote (bs.map fun b => Char.ofNat b.toNat)
  String.ofList ('b' :: quote :: bs.flatMap (literalByte quote) ++ [quote])

end JsonSchema.Text
