/-!
Bytes written in sixty-four letters, six bits each. Characters of no meaning are passed over.
-/

namespace JsonSchema.Text.Base64

def sextet? (c : Char) : Option Nat :=
  if 'A' ≤ c ∧ c ≤ 'Z' then some (c.toNat - 65)
  else if 'a' ≤ c ∧ c ≤ 'z' then some (c.toNat - 71)
  else if c.isDigit then some (c.toNat + 4)
  else if c = '+' then some 62
  else if c = '/' then some 63
  else none

/-- The bytes of a text. `filled` letters of a group of four were read, the last of them leaving
the bits `left`; `pads` signs of padding came after them. A group must be full at the end, with
padding if need be. -/
def decodeFrom (filled left pads : Nat) : List Char → Option (List UInt8)
  | [] => if filled = 0 then some [] else none
  | c :: rest =>
    if c = '=' then
      if 2 ≤ filled then
        if 4 ≤ filled + (pads + 1) then some [] else decodeFrom filled left (pads + 1) rest
      else decodeFrom filled left pads rest
    else
      match sextet? c with
      | none => decodeFrom filled left pads rest
      | some n =>
        let byte (k : Nat) : UInt8 := UInt8.ofNat k
        match filled with
        | 0 => decodeFrom 1 n 0 rest
        | 1 => (decodeFrom 2 (n % 16) 0 rest).map (byte (left * 4 + n / 16) :: ·)
        | 2 => (decodeFrom 3 (n % 4) 0 rest).map (byte (left * 16 + n / 4) :: ·)
        | _ => (decodeFrom 0 0 0 rest).map (byte (left * 64 + n) :: ·)

def decode? (cs : List Char) : Option (List UInt8) := decodeFrom 0 0 0 cs

end JsonSchema.Text.Base64
