import JsonSchema.Document.Json
import JsonSchema.Proofs.JsonForm
import JsonSchema.Proofs.Text
import JsonSchema.Value.Render

/-!
Strings and numbers in JSON text are read back.

The reader of JSON undoes the escapes of a quoted string one character at a time, and reads the
digits of an integer up to a character that goes on no number.
-/

namespace JsonSchema

/-! ### Strings -/

namespace Text

/-- What a quoted string has as itself. -/
lemma jsonEscape?_eq_none {c : Char} (h : jsonEscape? c = none) :
    c ≠ '"' ∧ c ≠ '\\' ∧ 32 ≤ c.toNat := by
  unfold jsonEscape? at h
  split_ifs at h with hquote hback _ _ _ _ _ hc
  exact ⟨hquote, hback, Nat.le_of_not_lt hc⟩

/-- An escape is a letter that JSON has for the character, or the code of a control character. -/
lemma jsonEscape?_eq_some {c : Char} {escape : List Char} (h : jsonEscape? c = some escape) :
    (∃ e, escape = ['\\', e] ∧ Json.simpleEscape? e = some c) ∨
      escape = unicodeEscape c.toNat ∧ c.toNat < 32 := by
  unfold jsonEscape? at h
  split_ifs at h with hquote hback hn hr ht hb hf hc
  all_goals cases h
  all_goals first | exact .inr ⟨rfl, hc⟩ | subst_vars; exact .inl ⟨_, rfl, rfl⟩

end Text

namespace Json

lemma hexValue?_hexDigit : ∀ n < 16, hexValue? (Text.hexDigit n) = some n := by decide

/-- Four digits are read as the code that they were written for. -/
lemma exists_hexDigits {n : Nat} (h : n < 0x10000) :
    ∃ a b c d, Text.hexDigits 4 n = [a, b, c, d] ∧ hexCode? a b c d = some n := by
  refine ⟨_, _, _, _, rfl, ?_⟩
  have hdigit (k : Nat) := hexValue?_hexDigit (k % 16) (Nat.mod_lt k (by decide))
  simp only [hexCode?, hdigit, Option.bind_eq_bind, Option.bind_some, Option.pure_def,
    Option.some.injEq]
  omega

section

variable (start : List Char) {more : List Char}

lemma stringBody_unicodeEscape {n : Nat} (h : n < 0x10000) (hs : isHighSurrogate n = false)
    (hmore : more ≠ []) : stringBody start (Text.unicodeEscape n ++ more) =
      (stringBody start more).map fun r => (.ofCode n :: r.1, r.2) := by
  obtain ⟨a, b, c, d, hdigits, hcode⟩ := exists_hexDigits h
  obtain ⟨next, more, rfl⟩ := List.exists_cons_of_ne_nil hmore
  rw [Text.unicodeEscape, hdigits]
  simp only [List.cons_append, List.nil_append]
  rw [stringBody.eq_def]
  simp only [hcode]
  split
  · rename_i heq heq'
    cases heq
    rw [heq', if_neg (by simp [hs])]
  · rename_i heq heq'
    cases heq
    rw [heq']
  · rename_i hne
    exact absurd rfl (hne _ _ _ rfl)

lemma ofCode_toNat (c : Char) : Point.ofCode c.toNat = .char c := by
  have hc : ¬(0xd800 ≤ c.toNat ∧ c.toNat < 0xe000) := by
    rcases c.valid with h | ⟨h, -⟩
    · exact fun h' => absurd h (Nat.not_lt.2 h'.1)
    · exact fun h' => absurd h'.2 (Nat.not_lt.2 h)
  rw [Point.ofCode, dif_neg hc, Char.ofNat_toNat]

/-- An escape of one letter. -/
lemma stringBody_escape {c e : Char} (hc : simpleEscape? c = some e) :
    stringBody start ('\\' :: c :: more) =
      (stringBody start more).map fun r => (.char e :: r.1, r.2) := by
  have hu : c ≠ 'u' := by
    rintro rfl
    cases hc
  rw [stringBody.eq_def]
  split
  case h_5 heq =>
    cases heq
    rw [hc]
  case h_6 hback heq =>
    cases heq
    exact (hback _ _ rfl rfl).elim
  all_goals simp_all

/-- A character as itself. -/
lemma stringBody_char {c : Char} (hquote : c ≠ '"') (hback : c ≠ '\\') (hc : 32 ≤ c.toNat) :
    stringBody start (c :: more) = (stringBody start more).map fun r => (.char c :: r.1, r.2) := by
  rw [stringBody.eq_def]
  split
  case h_6 heq =>
    cases heq
    rw [if_neg hback, if_neg (Nat.not_lt.2 hc)]
  all_goals simp_all

/-- A character of a quoted string is read back. -/
lemma stringBody_quoteChar (c : Char) (hmore : more ≠ []) :
    stringBody start (Text.quoteChar c ++ more) =
      (stringBody start more).map fun r => (.char c :: r.1, r.2) := by
  cases h : Text.jsonEscape? c with
  | none =>
    obtain ⟨hquote, hback, hc⟩ := Text.jsonEscape?_eq_none h
    rw [Text.quoteChar, h]
    exact stringBody_char start hquote hback hc
  | some escape =>
    rw [Text.quoteChar, h]
    rcases Text.jsonEscape?_eq_some h with ⟨e, rfl, he⟩ | ⟨rfl, hc⟩
    · exact stringBody_escape start he
    · have hs : isHighSurrogate c.toNat = false := by
        simp only [isHighSurrogate, Bool.and_eq_false_iff, decide_eq_false_iff_not]
        omega
      have hcode := stringBody_unicodeEscape start (by omega) hs hmore
      rwa [ofCode_toNat] at hcode

/-- A quoted string is read back up to its closing quote. -/
theorem stringBody_quoted (cs rest : List Char) :
    stringBody start (cs.flatMap Text.quoteChar ++ '"' :: rest) = .ok (Text.plain cs, rest) := by
  induction cs with
  | nil => rfl
  | cons c cs ih =>
    rw [List.flatMap_cons, List.append_assoc, stringBody_quoteChar start c (by simp), ih]
    rfl

end

/-! ### Numbers -/

/-- What may follow a part of a JSON text without blanks: nothing, a comma or a closing sign. -/
def IsBehindPart (cs : List Char) : Prop := ∀ c ∈ cs.head?, c = ',' ∨ c = ']' ∨ c = '\x7d'

lemma digitsValue_toDigits (n : Nat) : digitsValue (Nat.toDigits 10 n) = n := by
  conv_rhs => rw [← @Nat.ofDigitChars_ten_toDigits n]
  simp only [digitsValue, Nat.ofDigitChars, Nat.mul_comm]
  rfl

/-- The digits of a number that is not zero start with no zero. -/
lemma ne_zero_of_toDigits {n : Nat} {c d : Char} {ds : List Char}
    (h : Nat.toDigits 10 n = c :: d :: ds) : c ≠ '0' := by
  rintro rfl
  have hdigits : ∀ c ∈ Nat.toDigits 10 n, c.isDigit = true := fun c hc =>
    Nat.isDigit_of_mem_toDigits (by decide) (by decide) hc
  rw [h] at hdigits
  have hvalue : digitsValue (d :: ds) = n := by
    rw [← digitsValue_toDigits n, h]
    rfl
  have hlt := digitsValue_lt fun c hc => hdigits c (List.mem_cons_of_mem _ hc)
  have hlength := (Nat.length_toDigits_le_iff (by decide) (by simp)).2 (hvalue ▸ hlt)
  rw [h] at hlength
  exact absurd hlength (Nat.not_succ_le_self _)

lemma length_toDigits_le {n limit : Nat} (h : n < Nat.pow 10 limit) (hlimit : 0 < limit) :
    (Nat.toDigits 10 n).length ≤ limit :=
  (Nat.length_toDigits_le_iff (by decide) hlimit).2 h

section

variable {rest : List Char} (hrest : IsBehindPart rest)

include hrest

lemma takeWhile_isDigit : rest.takeWhile Char.isDigit = [] := by
  cases rest with
  | nil => rfl
  | cons c cs => rcases hrest c rfl with rfl | rfl | rfl <;> rfl

/-- Digits are read up to their end. -/
lemma span_digits {ds : List Char} (h : ∀ c ∈ ds, c.isDigit = true) :
    (ds ++ rest).span Char.isDigit = (ds, rest) := by
  have hnone := takeWhile_isDigit hrest
  have hall : rest.dropWhile Char.isDigit = rest := by
    simpa [hnone] using @List.takeWhile_append_dropWhile _ Char.isDigit rest
  rw [List.span_eq_takeWhile_dropWhile, List.takeWhile_append_of_pos h,
    List.dropWhile_append_of_pos h, hnone, hall, List.append_nil]

lemma wholeDigits_toDigits (n : Nat) :
    wholeDigits (Nat.toDigits 10 n ++ rest) = (Nat.toDigits 10 n, rest) := by
  have hspan := span_digits hrest fun c hc =>
    Nat.isDigit_of_mem_toDigits (b := 10) (n := n) (by decide) (by decide) hc
  cases hds : Nat.toDigits 10 n with
  | nil => exact absurd hds Nat.toDigits_ne_nil
  | cons c ds =>
    rw [hds] at hspan
    by_cases hc : c = '0'
    · -- a zero stands alone
      cases ds with
      | nil => rw [hc]; rfl
      | cons d ds => exact absurd hc (ne_zero_of_toDigits hds)
    · rw [wholeDigits.eq_def]
      split
      · rename_i heq
        exact absurd (List.cons.inj heq).1 hc
      · exact hspan

lemma fractionDigits_behind : fractionDigits rest = ([], rest) := by
  cases rest with
  | nil => rfl
  | cons c cs => rcases hrest c rfl with rfl | rfl | rfl <;> rfl

lemma exponent?_behind : exponent? rest = none := by
  cases rest with
  | nil => rfl
  | cons c cs => rcases hrest c rfl with rfl | rfl | rfl <;> rfl

/-- The digits of a number within the limit are read as this number. -/
lemma unsigned_toDigits (start : List Char) (negative : Bool) {n : Nat}
    (h : n < Nat.pow 10 digitLimit) :
    unsigned start negative (Nat.toDigits 10 n ++ rest) =
      .ok (.int (if negative then -(n : Int) else n), rest) := by
  have hlength : ¬digitLimit < (Nat.toDigits 10 n).length :=
    Nat.not_lt.2 (@length_toDigits_le n digitLimit h (by decide))
  have hint : integer negative (Nat.toDigits 10 n) =
      .ok (.int (if negative then -(n : Int) else n)) := by
    rw [integer, if_neg hlength, digitsValue_toDigits]
  unfold unsigned
  rw [wholeDigits_toDigits hrest]
  split
  · rename_i heq
    exact absurd (Prod.mk.inj heq).1 Nat.toDigits_ne_nil
  · rename_i heq
    cases heq
    simp only [fractionDigits_behind hrest, exponent?_behind hrest]
    rw [if_pos List.isEmpty_nil, hint]
    rfl

end

/-- What starts with a digit, behind a sign or not, is read as a number. -/
lemma wordOrNumber_digit {c : Char} (hc : c.isDigit = true) (cs : List Char) :
    wordOrNumber (c :: cs) = unsigned (c :: cs) false (c :: cs) ∧
      wordOrNumber ('-' :: c :: cs) = unsigned ('-' :: c :: cs) true (c :: cs) := by
  have hne {d : Char} (hd : d.isDigit = false) : ¬d = c := by
    rintro rfl
    rw [hc] at hd
    cases hd
  have hword : ∀ w ∈ words, word? w.1 (c :: cs) = none ∧ word? w.1 ('-' :: c :: cs) = none := by
    simp only [words, List.forall_mem_cons, List.not_mem_nil, false_imp_iff, implies_true, and_true]
    exact ⟨⟨if_neg (hne rfl), rfl⟩, ⟨if_neg (hne rfl), rfl⟩, ⟨if_neg (hne rfl), rfl⟩,
      ⟨if_neg (hne rfl), rfl⟩, ⟨if_neg (hne rfl), rfl⟩, if_neg (hne rfl), if_neg (hne rfl)⟩
  have hnumber : number (c :: cs) = unsigned (c :: cs) false (c :: cs) := by
    rw [number.eq_def]
    split
    · rename_i heq
      exact absurd (List.cons.inj heq).1.symm (hne rfl)
    · rfl
  unfold wordOrNumber
  rw [List.findSome?_eq_none_iff.2 fun w hw => by rw [(hword w hw).1]; rfl,
    List.findSome?_eq_none_iff.2 fun w hw => by rw [(hword w hw).2]; rfl]
  exact ⟨hnumber, rfl⟩

lemma toList_toString_ofNat (m : Nat) : (toString (Int.ofNat m)).toList = Nat.toDigits 10 m :=
  String.toList_ofList

lemma toList_toString_negSucc (m : Nat) :
    (toString (Int.negSucc m)).toList = '-' :: Nat.toDigits 10 (m + 1) :=
  (String.toList_append ..).trans (congrArg _ String.toList_ofList)

/-- An integer within the limit on digits is read back. -/
theorem wordOrNumber_toString {rest : List Char} (hrest : IsBehindPart rest) {n : Int}
    (h : withinDigitLimit n = true) :
    wordOrNumber ((toString n).toList ++ rest) = .ok (.int n, rest) := by
  have hlimit : n.natAbs < Nat.pow 10 digitLimit := of_decide_eq_true h
  obtain ⟨c, cs, hcs⟩ := List.exists_cons_of_ne_nil (@Nat.toDigits_ne_nil n.natAbs 10)
  have hc : c.isDigit = true :=
    Nat.isDigit_of_mem_toDigits (by decide) (by decide) (hcs ▸ List.mem_cons_self)
  obtain ⟨hplain, hminus⟩ := wordOrNumber_digit hc (cs ++ rest)
  have hread := fun start negative => unsigned_toDigits hrest start negative hlimit
  rw [hcs, List.cons_append] at hread
  cases n with
  | ofNat m =>
    rw [toList_toString_ofNat, show Nat.toDigits 10 m = c :: cs from hcs, List.cons_append, hplain,
      hread]
    rfl
  | negSucc m =>
    rw [toList_toString_negSucc, show Nat.toDigits 10 (m + 1) = c :: cs from hcs, List.cons_append,
      List.cons_append, hminus, hread]
    rfl

end Json

end JsonSchema
