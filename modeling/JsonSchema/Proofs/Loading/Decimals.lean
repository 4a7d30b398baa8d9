import JsonSchema.Proofs.Loading.Integers
import JsonSchema.Proofs.Rounding

/-!
Texts that have the form of decimals.

What such a text leaves without its sign and its underscores, in small letters, is a decimal, or
such parts between colons, or a word. Main statement: it is read as a double, unless it has so many
parts that their weights are no doubles.
-/

namespace JsonSchema

open Yaml

namespace Yaml

/-! ### Decimals without sign -/

/-- The characters of decimals without sign, in small letters. -/
def decimalChars : List Char := "0123456789.e-+".toList

/-- What the form of a decimal leaves, sign and underscores aside and in small letters. -/
inductive DecimalText : List Char → Prop
  | digits {ds : List Char} (h : Digits ds) : DecimalText ds
  | point {whole fraction exponent : List Char} {e : Int} (hwhole : ∀ c ∈ whole, c.isDigit = true)
    (hfraction : ∀ c ∈ fraction, c.isDigit = true) (hdigits : whole ≠ [] ∨ fraction ≠ [])
    (hexponent : Exponent exponent e) (hsmall : 'E' ∉ exponent) :
    DecimalText (whole ++ '.' :: (fraction ++ exponent))

section

variable {ds cs : List Char}

lemma someDigits?_of_all (h : ∀ c ∈ ds, c.isDigit = true) :
    Reading.someDigits? ds = some (ds.map fun c => c.toNat - 48) := by
  cases ds with
  | nil => rfl
  | cons c cs => exact Digits.someDigits?_eq ⟨List.cons_ne_nil c cs, h⟩

lemma digitSpan_of_all (h : ∀ c ∈ ds, c.isDigit = true) (rest : List Char)
    (hrest : ∀ c ∈ rest.head?, (Text.isDecimal c || c == '_') = false) :
    Reading.digitSpan (ds ++ rest) = (ds, rest) :=
  span_append (fun c hc => of_isDigit (p := fun c => Text.isDecimal c || c == '_')
    (by decide +kernel) (h c hc)) hrest

namespace DecimalText

lemma mem_decimalChars (h : DecimalText cs) {c : Char} (hc : c ∈ cs) : c ∈ decimalChars := by
  have hdigit {c : Char} (hc : c.isDigit = true) : c ∈ decimalChars :=
    List.contains_iff_mem.1 (of_isDigit (p := decimalChars.contains) (by decide) hc)
  cases h with
  | digits h => exact hdigit (h.all c hc)
  | point hwhole hfraction hdigits hexponent hsmall =>
    simp only [List.mem_append, List.mem_cons] at hc
    rcases hc with hc | rfl | hc | hc
    · exact hdigit (hwhole c hc)
    · decide
    · exact hdigit (hfraction c hc)
    · cases hexponent with
      | none => cases hc
      | signed hletter negative hds =>
        rcases List.mem_cons.1 hc with rfl | hc
        · rcases hletter with rfl | rfl
          · decide
          · exact absurd List.mem_cons_self hsmall
        · rcases List.mem_cons.1 hc with rfl | hc
          · cases negative <;> decide
          · exact hdigit (hds.all c hc)

/-- What holds of the characters of decimals. -/
lemma of_mem (h : DecimalText cs) {p : Char → Bool} (hp : decimalChars.all p = true) {c : Char}
    (hc : c ∈ cs) : p c = true := List.all_eq_true.1 hp c (h.mem_decimalChars hc)

lemma exists_mantissa? (h : DecimalText cs) : ∃ m exponent e,
    Reading.mantissa? cs = some (m, exponent) ∧ Reading.exponent? exponent = some e := by
  cases h with
  | digits h =>
    have hspan := h.digitSpan_eq [] nofun
    rw [List.append_nil] at hspan
    refine ⟨⟨cs.map fun c => c.toNat - 48, []⟩, [], 0, ?_, rfl⟩
    simp only [Reading.mantissa?, hspan, h.someDigits?_eq, Option.bind_eq_bind, Option.bind_some]
    exact if_neg (by simp [h.ne_nil])
  | @point whole fraction exponent e hwhole hfraction hdigits hexponent hsmall =>
    have hpoint := digitSpan_of_all hwhole ('.' :: (fraction ++ exponent)) (by
      rintro _ ⟨⟩
      decide +kernel)
    have hbehind := digitSpan_of_all hfraction exponent fun c hc => by
      rcases hexponent.head_eq c hc with rfl | rfl <;> decide +kernel
    refine ⟨⟨whole.map fun c => c.toNat - 48, fraction.map fun c => c.toNat - 48⟩, exponent, e, ?_,
      hexponent.exponent?_eq⟩
    simp only [Reading.mantissa?, hpoint, hbehind, someDigits?_of_all hwhole,
      someDigits?_of_all hfraction, Option.bind_eq_bind, Option.bind_some, List.isEmpty_map]
    rw [if_neg]
    simpa [← not_and_or] using hdigits

/-- A decimal starts with a digit or a point. -/
lemma exists_cons (h : DecimalText cs) :
    ∃ c rest, cs = c :: rest ∧ (c.isDigit = true ∨ c = '.') := by
  cases h with
  | digits h =>
    obtain ⟨c, rest, hcs, hc⟩ := h.exists_cons
    exact ⟨c, rest, hcs, .inl hc⟩
  | @point whole fraction exponent _ hwhole _ _ _ _ =>
    cases whole with
    | nil => exact ⟨'.', fraction ++ exponent, rfl, .inr rfl⟩
    | cons c rest =>
      exact ⟨c, rest ++ '.' :: (fraction ++ exponent), rfl, .inl (hwhole c List.mem_cons_self)⟩

lemma sign_eq (h : DecimalText cs) : Reading.sign cs = (false, cs) := by
  obtain ⟨c, rest, rfl, hc | rfl⟩ := h.exists_cons
  · exact sign_of_isDigit hc rest
  · rfl

lemma exists_readDouble? (h : DecimalText cs) : ∃ x, readDouble? cs = some x := by
  obtain ⟨m, exponent, e, hm, he⟩ := h.exists_mantissa?
  have hword {word : String} (hn : 'n' ∈ word.toList) :
      String.ofList (cs.map Char.toLower) ≠ word := by
    rintro rfl
    rw [String.toList_ofList] at hn
    obtain ⟨c, hc, heq⟩ := List.mem_map.1 hn
    exact absurd heq (bne_iff_ne.1 (h.of_mem (p := fun c => c.toLower != 'n') (by decide) hc))
  have hblank : ∀ c ∈ cs, Text.isBlank c = false := fun c hc => by
    simpa using h.of_mem (p := fun c => !Text.isBlank c) (by decide +kernel) hc
  rw [readDouble?, trim_eq hblank, h.sign_eq]
  simp only [Reading.unsignedDouble?, @hword "inf" (by decide), @hword "infinity" (by decide),
    @hword "nan" (by decide), or_self, if_false, hm, he, Option.bind_eq_bind, Option.bind_some]
  exact ⟨_, rfl⟩

end DecimalText

end

lemma toLower_of_not_between {c : Char} (h : ¬('A' ≤ c ∧ c ≤ 'Z')) : c.toLower = c := by
  unfold Char.toLower
  exact dif_neg h

/-- Small letters are signs where the letters are. -/
lemma isSign_toLower (c : Char) : Form.isSign c.toLower = Form.isSign c := by
  by_cases h : 'A' ≤ c ∧ c ≤ 'Z'
  · exact beq_iff_eq.1 (of_between (p := fun c => Form.isSign c.toLower == Form.isSign c) h
      (by decide +kernel))
  · rw [toLower_of_not_between h]

lemma withoutSign_map_toLower (cs : List Char) :
    Form.withoutSign (cs.map Char.toLower) = (Form.withoutSign cs).map Char.toLower := by
  cases cs with
  | nil => rfl
  | cons c rest =>
    rw [List.map_cons, Form.withoutSign, Form.withoutSign, isSign_toLower]
    split <;> rfl

/-- A text without its sign and its underscores, in small letters. -/
def smallText (cs : List Char) : List Char := (bareText cs).map Char.toLower

lemma withoutSign_eq_smallText (cs : List Char) :
    Form.withoutSign ((cs.filter (· != '_')).map Char.toLower) = smallText cs :=
  withoutSign_map_toLower _

lemma isEmpty_of_smallText {cs : List Char} (h : smallText cs ≠ []) :
    ((cs.filter (· != '_')).map Char.toLower).isEmpty = false := by
  rw [← withoutSign_eq_smallText] at h
  rw [List.isEmpty_eq_false_iff]
  intro hcs
  exact h (by rw [hcs]; rfl)

/-- A decimal on its own is read. -/
lemma exists_floatOf_decimal {text : List Char} (h : DecimalText (smallText text)) :
    ∃ v, floatOf text = .ok v := by
  obtain ⟨x, hx⟩ := h.exists_readDouble?
  have hword {word : String} (hn : 'n' ∈ word.toList) :
      String.ofList (smallText text) ≠ word := by
    rintro rfl
    rw [String.toList_ofList] at hn
    exact absurd rfl (bne_iff_ne.1 (h.of_mem (p := (· != 'n')) (by decide) hn))
  have hcolon : (smallText text).contains ':' = false := by
    rw [← Bool.not_eq_true, List.contains_iff_mem]
    exact fun hm => absurd rfl (bne_iff_ne.1 (h.of_mem (p := (· != ':')) (by decide) hm))
  have hne : smallText text ≠ [] := by
    obtain ⟨c, rest, hc, -⟩ := h.exists_cons
    exact hc ▸ List.cons_ne_nil c rest
  unfold floatOf
  dsimp only
  rw [isEmpty_of_smallText hne, if_neg Bool.false_ne_true, withoutSign_eq_smallText]
  split
  · exact absurd ‹_› (hword (by decide))
  · exact absurd ‹_› (hword (by decide))
  · rw [hcolon, if_neg Bool.false_ne_true, hx]
    exact ⟨_, rfl⟩

section

variable {ds cs whole tail : List Char}

lemma isDigit_filter (h : ds.all Form.isDigitOrLow = true) :
    ∀ c ∈ ds.filter (· != '_'), c.isDigit = true := by
  intro c hc
  obtain ⟨hmem, hlow⟩ := List.mem_filter.1 hc
  rcases Bool.or_eq_true _ _ ▸ List.all_eq_true.1 h c hmem with hdigit | hc
  · exact hdigit
  · exact absurd (beq_iff_eq.1 hc) (bne_iff_ne.1 hlow)

lemma map_toLower_of_all (h : ∀ c ∈ ds, c.isDigit = true) : ds.map Char.toLower = ds := by
  cases ds with
  | nil => rfl
  | cons c rest => exact Digits.map_toLower ⟨List.cons_ne_nil c rest, h⟩

lemma filter_ne_nil (h : Form.startsWithDigit ds = true) : ds.filter (· != '_') ≠ [] := by
  cases ds with
  | nil => cases h
  | cons c rest =>
    have hlow : (c != '_') = true := of_isDigit (p := (· != '_')) (by decide) h
    rw [List.filter_cons, if_pos hlow]
    exact List.cons_ne_nil _ _

/-- The form of an exponent. -/
lemma exists_exponent (h : (cs.isEmpty || Form.isExponent cs) = true) : ∃ e, Exponent cs e := by
  unfold Form.isExponent at h
  split at h
  · rename_i letter sign ds
    simp only [List.isEmpty_cons, Bool.false_or, Bool.and_eq_true, Bool.or_eq_true, beq_iff_eq,
      Form.someOf, Bool.not_eq_true', List.isEmpty_eq_false_iff] at h
    obtain ⟨⟨hletter, hsign⟩, hne, hall⟩ := h
    have hds : Digits ds := ⟨hne, List.all_eq_true.1 hall⟩
    rcases Bool.or_eq_true _ _ ▸ hsign with h | h
    · obtain rfl := beq_iff_eq.1 h
      exact ⟨_, .signed hletter true hds⟩
    · obtain rfl := beq_iff_eq.1 h
      exact ⟨_, .signed hletter false hds⟩
  · rw [Bool.or_false, List.isEmpty_iff] at h
    exact ⟨0, h ▸ .none⟩

lemma not_mem_map_toLower (cs : List Char) : 'E' ∉ cs.map Char.toLower := by
  rintro h
  obtain ⟨c, -, hc⟩ := List.mem_map.1 h
  by_cases hupper : 'A' ≤ c ∧ c ≤ 'Z'
  · exact absurd hc (bne_iff_ne.1 (of_between (p := fun c => c.toLower != 'E') hupper
      (by decide +kernel)))
  · rw [toLower_of_not_between hupper] at hc
    exact hupper (hc ▸ by decide)

/-- Digits and underscores, a point, and a fraction. -/
lemma decimalText_of_parts (hwhole : whole.all Form.isDigitOrLow = true)
    (htail : Form.isFraction tail = true)
    (hdigits : Form.startsWithDigit whole = true ∨ Form.startsWithDigit tail = true) :
    DecimalText (((whole ++ '.' :: tail).filter (· != '_')).map Char.toLower) := by
  obtain ⟨fraction, exponent, rfl, hfraction, e, hexponent⟩ : ∃ fraction exponent,
      tail = fraction ++ exponent ∧ fraction.all Form.isDigitOrLow = true ∧
        ∃ e, Exponent exponent e :=
    ⟨_, _, List.takeWhile_append_dropWhile.symm, List.all_takeWhile, exists_exponent htail⟩
  have hkept : exponent.filter (· != '_') = exponent := List.filter_eq_self.2 fun c hc => by
    have hinner := isInner_of_mem_exponent hexponent hc
    rw [isInner, Bool.and_eq_true, Bool.and_eq_true] at hinner
    exact hinner.1.1
  have htext : ((whole ++ '.' :: (fraction ++ exponent)).filter (· != '_')).map Char.toLower =
      whole.filter (· != '_') ++
        '.' :: (fraction.filter (· != '_') ++ exponent.map Char.toLower) := by
    rw [List.filter_append, List.filter_cons, if_pos (by rfl), List.filter_append, hkept,
      List.map_append, List.map_cons, List.map_append, map_toLower_of_all (isDigit_filter hwhole),
      map_toLower_of_all (isDigit_filter hfraction)]
    rfl
  rw [htext]
  refine .point (isDigit_filter hwhole) (isDigit_filter hfraction) ?_ (exponent_toLower hexponent)
    (not_mem_map_toLower exponent)
  refine hdigits.imp filter_ne_nil fun hstart => filter_ne_nil ?_
  cases fraction with
  | cons => exact hstart
  | nil =>
    -- an exponent starts with no digit
    obtain ⟨c, hc, hdigit⟩ := (Option.any_eq_true _ _).1 hstart
    rcases hexponent.head_eq c hc with rfl | rfl <;> cases hdigit

end

/-- A text whose underscores may go before its sign, in small letters. -/
lemma smallText_eq {cs raw : List Char} (hraw : Form.withoutSign cs = raw)
    (hlow : raw.head? ≠ some '_') : smallText cs = (raw.filter (· != '_')).map Char.toLower := by
  rw [smallText, bareText_eq (by rwa [hraw]), hraw]

/-! ### Base sixty -/

lemma isSome_ofInt?_weight {k : Nat} (h : k < 174) :
    (Double.ofInt? ((60 ^ k : Nat) : Int)).isSome = true := by
  have hweight : 60 ^ k ≤ 60 ^ 173 := Nat.pow_le_pow_right (by decide) (by omega)
  have hlast : 60 ^ 173 + 2 ^ 970 < 2 ^ 1024 := by decide +kernel
  rw [Double.isSome_ofInt?_iff, Int.natAbs_natCast]
  omega

/-- Parts are added up as long as their weights are doubles. -/
lemma exists_sumOfSixtieths {xs : List Double} (h : xs.length ≤ 174) :
    ∃ x, sumOfSixtieths xs = some x := by
  unfold sumOfSixtieths
  extract_lets add
  have hall : ∀ (ys : List Double) (k : Nat) (sum : Double), k + ys.length ≤ 174 →
      ∃ r, ys.foldlM add (sum, 60 ^ k) = some r := by
    intro ys
    induction ys with
    | nil => exact fun k sum _ => ⟨_, rfl⟩
    | cons y ys ih =>
      intro k sum hk
      rw [List.length_cons] at hk
      obtain ⟨weight, hweight⟩ := Option.isSome_iff_exists.1
        (isSome_ofInt?_weight (k := k) (by omega))
      obtain ⟨r, hr⟩ := ih (k + 1) (sum.add (y.mul weight)) (by omega)
      refine ⟨r, ?_⟩
      have hstep : add (sum, 60 ^ k) y = some (sum.add (y.mul weight), 60 ^ (k + 1)) := by
        show (Double.ofInt? _ >>= _) = _
        rw [hweight, pow_succ]
        rfl
      rw [List.foldlM_cons, hstep]
      exact hr
  obtain ⟨r, hr⟩ := hall xs.reverse 0 .zero (by simpa using h)
  rw [pow_zero] at hr
  exact ⟨r.1, by rw [hr]; rfl⟩

lemma exists_mapM_readDouble? {parts : List (List Char)} (h : ∀ p ∈ parts, DecimalText p) :
    ∃ xs, parts.mapM readDouble? = some xs ∧ xs.length = parts.length := by
  induction parts with
  | nil => exact ⟨[], rfl, rfl⟩
  | cons p parts ih =>
    obtain ⟨hp, hparts⟩ := List.forall_mem_cons.1 h
    obtain ⟨x, hx⟩ := hp.exists_readDouble?
    obtain ⟨xs, hxs, hlength⟩ := ih hparts
    exact ⟨x :: xs, by rw [List.mapM_cons, hx, hxs]; rfl, by simp [hlength]⟩

/-- Decimals between colons are read. -/
lemma exists_floatOf_parts {text first : List Char} {parts : List (List Char)}
    (htext : smallText text = first ++ colonText parts) (hne : parts ≠ [])
    (hparts : ∀ p ∈ first :: parts, DecimalText p) (hfew : parts.length < 174) :
    ∃ v, floatOf text = .ok v := by
  have hmem : ':' ∈ smallText text := by
    obtain ⟨p, rest, rfl⟩ := List.exists_cons_of_ne_nil hne
    rw [htext]
    simp [colonText]
  have hword {word : String} (hn : ':' ∉ word.toList) :
      String.ofList (smallText text) ≠ word := by
    rintro rfl
    exact hn (by rwa [String.toList_ofList])
  have hsplit : (smallText text).splitOn ':' = first :: parts := by
    rw [htext, splitOn_colonText fun p hp hm =>
      absurd rfl (bne_iff_ne.1 ((hparts p hp).of_mem (p := (· != ':')) (by decide) hm))]
  obtain ⟨xs, hxs, hlength⟩ : ∃ xs, (first :: parts).mapM readDouble? = some xs ∧
      xs.length = (first :: parts).length := exists_mapM_readDouble? hparts
  have hweights : xs.length ≤ 174 := by
    rw [hlength, List.length_cons]
    omega
  obtain ⟨x, hx⟩ := exists_sumOfSixtieths hweights
  unfold floatOf
  dsimp only
  rw [isEmpty_of_smallText (List.ne_nil_of_mem hmem), if_neg Bool.false_ne_true,
    withoutSign_eq_smallText]
  split
  · exact absurd ‹_› (hword (by decide))
  · exact absurd ‹_› (hword (by decide))
  · rw [List.contains_iff_mem.2 hmem, if_pos rfl, hsplit, hxs]
    simp only [hx]
    exact ⟨_, rfl⟩

/-- The last part of a number in base sixty may have a point. -/
lemma exists_floatOf_sixtieths {text ds tail : List Char} {parts : List (List Char)}
    (hraw : Form.withoutSign text = ds ++ (colonText parts ++ '.' :: tail))
    (hstart : Form.startsWithDigit ds = true) (hds : ds.all Form.isDigitOrLow = true)
    (hne : parts ≠ []) (hparts : ∀ p ∈ parts, IsPart p) (htail : tail.all Form.isDigitOrLow = true)
    (hfew : ((smallText text).splitOn ':').length ≤ 174) : ∃ v, floatOf text = .ok v := by
  obtain ⟨init, last, rfl⟩ : ∃ init last, parts = init ++ [last] :=
    ⟨_, _, (List.dropLast_append_getLast hne).symm⟩
  have hlast : IsPart last := hparts last (by simp)
  have hsmall : smallText text = ds.filter (· != '_') ++
      colonText (init ++ [last ++ '.' :: tail.filter (· != '_')]) := by
    have hlow : (ds ++ (colonText (init ++ [last]) ++ '.' :: tail)).head? ≠ some '_' := by
      obtain ⟨c, hc, hdigit⟩ := (Option.any_eq_true _ _).1 hstart
      obtain ⟨rest, rfl⟩ := List.head?_eq_some_iff.1 hc
      rintro ⟨⟩
      cases hdigit
    have hcolons : (colonText (init ++ [last])).filter (· != '_') = colonText (init ++ [last]) :=
      List.filter_eq_self.2 (of_mem_colonText (by rfl) (by decide) hparts)
    have hletters : (colonText (init ++ [last])).map Char.toLower = colonText (init ++ [last]) :=
      (List.map_congr_left fun c hc => beq_iff_eq.1 (of_mem_colonText
        (p := fun c => c.toLower == c) (by rfl) (by decide) hparts c hc)).trans (List.map_id _)
    rw [smallText_eq hraw hlow, List.filter_append, List.filter_append, hcolons,
      List.filter_cons_of_pos (by rfl), List.map_append, List.map_append, hletters, List.map_cons,
      map_toLower_of_all (isDigit_filter hds), map_toLower_of_all (isDigit_filter htail)]
    simp [colonText]
  have hfirst : Digits (ds.filter (· != '_')) := ⟨filter_ne_nil hstart, isDigit_filter hds⟩
  have hpoint : DecimalText (last ++ '.' :: tail.filter (· != '_')) := by
    rw [← List.append_nil (tail.filter _)]
    exact .point hlast.digits.all (isDigit_filter htail) (.inl hlast.digits.ne_nil) .none
      (List.not_mem_nil)
  have hall : ∀ p ∈ ds.filter (· != '_') :: (init ++ [last ++ '.' :: tail.filter (· != '_')]),
      DecimalText p := by
    refine List.forall_mem_cons.2 ⟨.digits hfirst, fun p hp => ?_⟩
    rcases List.mem_append.1 hp with hp | hp
    · exact .digits (hparts p (List.mem_append_left _ hp)).digits
    · exact List.mem_singleton.1 hp ▸ hpoint
  refine exists_floatOf_parts hsmall (by simp) hall ?_
  rw [hsmall, splitOn_colonText fun p hp hm =>
    absurd rfl (bne_iff_ne.1 ((hall p hp).of_mem (p := (· != ':')) (by decide) hm)),
    List.length_cons] at hfew
  exact hfew

/-! ### Forms -/

/-- An infinite number, with a sign or without. -/
lemma exists_floatOf_infinite {text : List Char} (h : smallText text = ".inf".toList) :
    ∃ v, floatOf text = .ok v := by
  have hne : smallText text ≠ [] := h ▸ List.cons_ne_nil _ _
  unfold floatOf
  dsimp only
  rw [isEmpty_of_smallText hne, if_neg Bool.false_ne_true, withoutSign_eq_smallText, h]
  exact ⟨_, rfl⟩

lemma exists_floatOf_of_parts {text : List Char} {whole tail : List Char}
    (hraw : Form.withoutSign text = whole ++ '.' :: tail)
    (hlow : (whole ++ '.' :: tail).head? ≠ some '_') (hwhole : whole.all Form.isDigitOrLow = true)
    (htail : Form.isFraction tail = true)
    (hdigits : Form.startsWithDigit whole = true ∨ Form.startsWithDigit tail = true) :
    ∃ v, floatOf text = .ok v := by
  refine exists_floatOf_decimal ?_
  rw [smallText_eq hraw hlow]
  exact decimalText_of_parts hwhole htail hdigits

/-- Digits and underscores up to a point, of which the first is a digit. -/
lemma exists_whole {raw tail : List Char} (hstart : Form.startsWithDigit raw = true)
    (htail : raw.dropWhile Form.isDigitOrLow = '.' :: tail) :
    ∃ c more, raw = c :: more ++ '.' :: tail ∧ c.isDigit = true ∧
      (c :: more).all Form.isDigitOrLow = true := by
  obtain ⟨c, hc, hdigit⟩ := (Option.any_eq_true _ _).1 hstart
  obtain ⟨rest, rfl⟩ := List.head?_eq_some_iff.1 hc
  have hmore : (c :: rest).takeWhile Form.isDigitOrLow = c :: rest.takeWhile Form.isDigitOrLow :=
    List.takeWhile_cons_of_pos (by rw [Form.isDigitOrLow, hdigit]; rfl)
  refine ⟨c, rest.takeWhile Form.isDigitOrLow, ?_, hdigit, hmore ▸ List.all_takeWhile⟩
  rw [← htail, ← hmore, List.takeWhile_append_dropWhile]

/-- A decimal has no more parts than there are doubles for their weights. -/
def isShortDecimal (cs : List Char) : Bool := ((smallText cs).splitOn ':').length ≤ 174

theorem exists_floatOf {text : List Char} (hform : Form.isFloat text = true)
    (hshort : isShortDecimal text = true) : ∃ v, floatOf text = .ok v := by
  unfold Form.isFloat at hform
  dsimp only at hform
  rw [Bool.or_eq_true, Bool.or_eq_true, Bool.or_eq_true, Bool.or_eq_true] at hform
  rcases hform with (((h | h) | h) | h) | h
  · rw [Bool.and_eq_true, Bool.and_eq_true, beq_iff_eq] at h
    obtain ⟨⟨hstart, hpoint⟩, hfraction⟩ := h
    obtain ⟨tail, htail⟩ := List.head?_eq_some_iff.1 hpoint
    rw [htail] at hfraction
    obtain ⟨c, more, hraw, hdigit, hall⟩ := exists_whole hstart htail
    refine exists_floatOf_of_parts hraw ?_ hall hfraction (.inl hdigit)
    rintro ⟨⟩
    cases hdigit
  · rw [Bool.and_eq_true, Bool.and_eq_true, beq_iff_eq] at h
    obtain ⟨⟨hpoint, hstart⟩, hfraction⟩ := h
    obtain ⟨tail, htail⟩ := List.head?_eq_some_iff.1 hpoint
    rw [htail, List.tail_cons] at hstart hfraction
    have hraw : Form.withoutSign text = [] ++ '.' :: tail := by
      rw [htail]
      rfl
    exact exists_floatOf_of_parts hraw (by simp) rfl hfraction (.inr hstart)
  · obtain ⟨hstart, h⟩ := (Bool.and_eq_true _ _ ▸ h : _ ∧ _)
    split at h
    · rename_i tail hsixty
      obtain ⟨parts, hne, hparts, hbehind⟩ := exists_parts hsixty
      obtain ⟨c, hc, hdigit⟩ := (Option.any_eq_true _ _).1 hstart
      have hraw : Form.withoutSign text = (Form.withoutSign text).takeWhile Form.isDigitOrLow ++
          (colonText parts ++ '.' :: tail) := by
        rw [← hbehind, List.takeWhile_append_dropWhile]
      refine exists_floatOf_sixtieths hraw ?_ List.all_takeWhile hne hparts h
        (decide_eq_true_iff.1 hshort)
      obtain ⟨rest, hraw⟩ := List.head?_eq_some_iff.1 hc
      rw [hraw, List.takeWhile_cons_of_pos (by rw [Form.isDigitOrLow, hdigit]; rfl)]
      exact hdigit
    · cases h
  · have hwords : ∀ w ∈ [".inf", ".Inf", ".INF"], w.toList.head? ≠ some '_' ∧
        (w.toList.filter (· != '_')).map Char.toLower = ".inf".toList := by
      decide
    obtain ⟨hlow, hsmall⟩ := hwords _ (List.contains_iff_mem.1 h)
    rw [String.toList_ofList] at hlow hsmall
    exact exists_floatOf_infinite ((smallText_eq rfl hlow).trans hsmall)
  · have hwords : ∀ w ∈ [".nan", ".NaN", ".NAN"], ∃ v, floatOf w.toList = .ok v := by
      simp only [List.forall_mem_cons]
      exact ⟨⟨_, rfl⟩, ⟨_, rfl⟩, ⟨_, rfl⟩, List.forall_mem_nil _⟩
    have hfloat := hwords _ (List.contains_iff_mem.1 h)
    rwa [String.toList_ofList] at hfloat

end Yaml

end JsonSchema
