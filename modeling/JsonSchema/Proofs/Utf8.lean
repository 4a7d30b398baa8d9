import JsonSchema.Document.Load
import JsonSchema.Proofs.Files

/-!
Texts as bytes: decoding undoes the usual encoding, so a file that holds the bytes of a text is
read as that text.
-/

namespace JsonSchema

namespace Text.Utf8

def encode (cs : List Char) : List UInt8 := cs.flatMap String.utf8EncodeChar

/-- A byte that starts a character or goes on one, from its low bits. -/
lemma toNat_mark {n bits mark : Nat} (h : bits + mark ≤ 256) (hbits : 0 < bits) :
    (UInt8.ofNat (n % bits + mark)).toNat = n % bits + mark := by
  have := Nat.mod_lt n hbits
  rw [UInt8.toNat_ofNat']
  omega

lemma trail?_ofNat (n : Nat) : trail? (.ofNat (n % 64 + 128)) = some (n % 64) := by
  have hcode := @toNat_mark n 64 128 (by omega) (by omega)
  simp only [trail?, hcode]
  rw [if_pos (by omega)]
  simp

/-- A character is told by its code, which no shorter form reaches. -/
lemma char?_toNat (c : Char) {least code : Nat} (hcode : code = c.toNat) (h : least ≤ code) :
    char? least code = some c := by
  subst hcode
  rw [char?, if_pos ⟨h, c.valid⟩, Char.ofNat_toNat]

/-! ### Characters by the number of their bytes -/

section

variable (c : Char) {n : Nat} (hn : n = c.toNat) (bytes : List UInt8)

include hn

lemma decode?_one (hmost : n < 0x80) :
    decode? (.ofNat n :: bytes) = (decode? bytes).map (c :: ·) := by
  have hlead : (UInt8.ofNat n).toNat = n := by
    rw [UInt8.toNat_ofNat']
    omega
  rw [decode?.eq_def]
  simp only [hlead, if_pos hmost]
  rw [hn, Char.ofNat_toNat]

lemma decode?_two (hleast : 0x80 ≤ n) (hmost : n < 0x800) :
    decode? (.ofNat (n / 64 % 32 + 192) :: .ofNat (n % 64 + 128) :: bytes) =
      (decode? bytes).map (c :: ·) := by
  obtain ⟨lead, hlead⟩ : ∃ lead, lead = n / 64 % 32 + 192 := ⟨_, rfl⟩
  have hbyte := @toNat_mark (n / 64) 32 192 (by omega) (by omega)
  rw [← hlead] at hbyte ⊢
  rw [decode?.eq_def]
  simp only [hbyte, if_neg (show ¬lead < 0x80 by omega),
    if_pos (show 0xc0 ≤ lead ∧ lead < 0xe0 by omega), trail?_ofNat, Option.bind_eq_bind,
    Option.bind_some]
  rw [char?_toNat c (by omega) (by omega)]
  cases decode? bytes <;> rfl

lemma decode?_three (hleast : 0x800 ≤ n) (hmost : n < 0x10000) :
    decode? (.ofNat (n / 4096 % 16 + 224) :: .ofNat (n / 64 % 64 + 128) ::
      .ofNat (n % 64 + 128) :: bytes) = (decode? bytes).map (c :: ·) := by
  obtain ⟨lead, hlead⟩ : ∃ lead, lead = n / 4096 % 16 + 224 := ⟨_, rfl⟩
  have hbyte := @toNat_mark (n / 4096) 16 224 (by omega) (by omega)
  rw [← hlead] at hbyte ⊢
  rw [decode?.eq_def]
  simp only [hbyte, if_neg (show ¬lead < 0x80 by omega),
    if_neg (show ¬(0xc0 ≤ lead ∧ lead < 0xe0) by omega),
    if_pos (show 0xe0 ≤ lead ∧ lead < 0xf0 by omega), trail?_ofNat, Option.bind_eq_bind,
    Option.bind_some]
  rw [char?_toNat c (by omega) (by omega)]
  cases decode? bytes <;> rfl

lemma decode?_four (hleast : 0x10000 ≤ n) (hmost : n < 0x110000) :
    decode? (.ofNat (n / 262144 % 8 + 240) :: .ofNat (n / 4096 % 64 + 128) ::
      .ofNat (n / 64 % 64 + 128) :: .ofNat (n % 64 + 128) :: bytes) =
      (decode? bytes).map (c :: ·) := by
  obtain ⟨lead, hlead⟩ : ∃ lead, lead = n / 262144 % 8 + 240 := ⟨_, rfl⟩
  have hbyte := @toNat_mark (n / 262144) 8 240 (by omega) (by omega)
  rw [← hlead] at hbyte ⊢
  rw [decode?.eq_def]
  -- checked by unfolding, the steps would count up to the large weights of the code
  simp -implicitDefEqProofs only [hbyte, if_neg (show ¬lead < 0x80 by omega),
    if_neg (show ¬(0xc0 ≤ lead ∧ lead < 0xe0) by omega),
    if_neg (show ¬(0xe0 ≤ lead ∧ lead < 0xf0) by omega),
    if_pos (show 0xf0 ≤ lead ∧ lead < 0xf8 by omega), trail?_ofNat, Option.bind_eq_bind,
    Option.bind_some]
  rw [char?_toNat c (by omega) (by omega)]
  cases decode? bytes <;> rfl

end

/-! ### Texts -/

/-- The bytes of a character are read as this character. -/
lemma decode?_char (c : Char) (bytes : List UInt8) :
    decode? (String.utf8EncodeChar c ++ bytes) = (decode? bytes).map (c :: ·) := by
  obtain ⟨n, hn⟩ : ∃ n, n = c.toNat := ⟨_, rfl⟩
  have hmost : n < 0x110000 := by
    have hvalid : c.toNat.isValidChar := c.valid
    unfold Nat.isValidChar at hvalid
    omega
  unfold String.utf8EncodeChar
  rw [show c.val.toNat = n from hn.symm]
  dsimp only
  split
  · exact decode?_one c hn bytes (by omega)
  · split
    · exact decode?_two c hn bytes (by omega) (by omega)
    · split
      · exact decode?_three c hn bytes (by omega) (by omega)
      · exact decode?_four c hn bytes (by omega) hmost

/-- Decoding undoes the encoding. -/
theorem decode?_encode (cs : List Char) : decode? (encode cs) = some cs := by
  induction cs with
  | nil => rfl
  | cons c rest ih =>
    rw [encode, List.flatMap_cons, decode?_char]
    exact (congrArg (Option.map _) ih).trans rfl

end Text.Utf8

end JsonSchema
