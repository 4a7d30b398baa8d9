/-!
Reading bytes as text: the eight bit form of Unicode, in which no character has two spellings.
-/

namespace JsonSchema.Text.Utf8

/-- The low six bits of a byte that goes on a character. -/
def trail? (b : UInt8) : Option Nat :=
  let n := b.toNat
  if 0x80 ≤ n ∧ n ≤ 0xbf then some (n - 0x80) else none

/-- A character of a code that may not be below `least`, nor half of a pair. -/
def char? (least code : Nat) : Option Char :=
  if least ≤ code ∧ code.isValidChar then some (Char.ofNat code) else none

/-- The characters of bytes; nothing if they are no text. -/
def decode? : List UInt8 → Option (List Char)
  | [] => some []
  | a :: rest =>
    let n := a.toNat
    if n < 0x80 then (decode? rest).map (Char.ofNat n :: ·)
    else if 0xc0 ≤ n ∧ n < 0xe0 then
      match rest with
      | b :: rest => do
        let c ← char? 0x80 ((n - 0xc0) * 64 + (← trail? b))
        return c :: (← decode? rest)
      | _ => none
    else if 0xe0 ≤ n ∧ n < 0xf0 then
      match rest with
      | b :: c :: rest => do
        let ch ← char? 0x800 ((n - 0xe0) * 4096 + (← trail? b) * 64 + (← trail? c))
        return ch :: (← decode? rest)
      | _ => none
    else if 0xf0 ≤ n ∧ n < 0xf8 then
      match rest with
      | b :: c :: d :: rest => do
        let ch ← char? 0x10000 ((n - 0xf0) * 262144 + (← trail? b) * 4096 + (← trail? c) * 64
          + (← trail? d))
        return ch :: (← decode? rest)
      | _ => none
    else none

end JsonSchema.Text.Utf8
