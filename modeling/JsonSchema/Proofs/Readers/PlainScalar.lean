import JsonSchema.Proofs.Readers.Filling
import JsonSchema.Proofs.Readers.Numeral

/-!
Words and numbers of JSON as plain scalars of YAML.

Main statements: the words and numbers that a shared text has are plain scalars of YAML that mean
the same.
-/

namespace JsonSchema

open Yaml

/-! ### Digits in YAML -/

section

variable {ds : List Char} (hds : Digits ds)

lemma ofDigits_toNat (ds : List Char) :
    Reading.ofDigits 10 (ds.map fun c => c.toNat - 48) = Json.digitsValue ds := by
  simp only [Reading.ofDigits, Json.digitsValue, List.foldl_map]

lemma trim_eq {cs : List Char} (h : ∀ c ∈ cs, Text.isBlank c = false) : Reading.trim cs = cs := by
  have hdrop (xs : List Char) (hxs : ∀ c ∈ xs, Text.isBlank c = false) :
      xs.dropWhile Text.isBlank = xs := by
    cases xs with
    | nil => rfl
    | cons x xs => exact List.dropWhile_cons_of_neg (by simp [hxs x List.mem_cons_self])
  rw [Reading.trim, hdrop cs h, hdrop cs.reverse (by simpa using h), List.reverse_reverse]

lemma digits?_cons (again : Bool) {c : Char} (hc : c.isDigit = true) (cs : List Char) :
    Reading.digits? 10 again (c :: cs) =
      (Reading.digits? 10 false cs).map fun ds => (c.toNat - 48) :: ds := by
  have hdigit : Reading.digit? 10 c = some (c.toNat - 48) :=
    eq_of_beq (of_isDigit (p := fun c => Reading.digit? 10 c == some (c.toNat - 48))
      (by decide +kernel) hc)
  have hlow : c ≠ '_' := ne_of_true_of_false hc (by decide)
  rw [Reading.digits?, if_neg hlow, hdigit]
  cases Reading.digits? 10 false cs <;> rfl

lemma digits?_of_all {ds : List Char} (h : ∀ c ∈ ds, c.isDigit = true) :
    Reading.digits? 10 false ds = some (ds.map fun c => c.toNat - 48) := by
  induction ds with
  | nil => rfl
  | cons c cs ih =>
    obtain ⟨hc, hcs⟩ := List.forall_mem_cons.1 h
    rw [digits?_cons false hc, ih hcs]
    rfl

lemma sign_of_isDigit {c : Char} (hc : c.isDigit = true) (cs : List Char) :
    Reading.sign (c :: cs) = (false, c :: cs) := by
  unfold Reading.sign
  split
  · rename_i heq
    cases heq
    exact absurd hc (by decide)
  · rename_i heq
    cases heq
    exact absurd hc (by decide)
  · rfl

lemma span_append {p : Char → Bool} {ds rest : List Char} (hds : ∀ c ∈ ds, p c = true)
    (hrest : ∀ c ∈ rest.head?, p c = false) : (ds ++ rest).span p = (ds, rest) := by
  have htake : rest.takeWhile p = [] ∧ rest.dropWhile p = rest := by
    cases rest with
    | nil => exact ⟨rfl, rfl⟩
    | cons c cs => simp [hrest c rfl]
  rw [List.span_eq_takeWhile_dropWhile, List.takeWhile_append_of_pos hds,
    List.dropWhile_append_of_pos hds, htake.1, htake.2, List.append_nil]

lemma ofList_ne {cs : List Char} {s : String} (h : cs.head? ≠ s.toList.head?) :
    String.ofList cs ≠ s := by
  rintro rfl
  exact h (by rw [String.toList_ofList])

include hds

lemma Digits.digits?_eq : Reading.digits? 10 true ds = some (ds.map fun c => c.toNat - 48) := by
  obtain ⟨c, cs, rfl⟩ := List.exists_cons_of_ne_nil hds.ne_nil
  obtain ⟨hc, hcs⟩ := List.forall_mem_cons.1 hds.all
  rw [digits?_cons true hc, digits?_of_all hcs]
  rfl

lemma Digits.map_toLower : ds.map Char.toLower = ds := by
  refine (List.map_congr_left fun c hc => ?_).trans (List.map_id ds)
  exact eq_of_beq (of_isDigit (p := fun c => c.toLower == c) (by decide) (hds.all c hc))

lemma Digits.isBlank_eq_false {c : Char} (hc : c ∈ ds) : Text.isBlank c = false := by
  simpa using of_isDigit (p := fun c => !Text.isBlank c) (by decide +kernel) (hds.all c hc)

lemma Digits.readInteger_eq (hlimit : ds.length ≤ digitLimit) :
    readInteger 10 ds = .ok (Json.digitsValue ds) := by
  have hbase : Reading.withoutBase 10 ds = ds := by
    unfold Reading.withoutBase
    split <;> rfl
  obtain ⟨c, cs, rfl, hc⟩ := hds.exists_cons
  rw [readInteger, trim_eq fun d hd => hds.isBlank_eq_false hd, sign_of_isDigit hc]
  simp only [hbase, hds.digits?_eq, List.length_map, Nat.not_lt.2 hlimit, ofDigits_toNat,
    and_false, if_false, Bool.false_eq_true]

/-- A run of digits ends where something else stands. -/
lemma Digits.digitSpan_eq (rest : List Char)
    (hrest : ∀ c ∈ rest.head?, (Text.isDecimal c || c == '_') = false) :
    Reading.digitSpan (ds ++ rest) = (ds, rest) :=
  span_append (fun c hc => of_isDigit (p := fun c => Text.isDecimal c || c == '_')
    (by decide +kernel) (hds.all c hc)) hrest

lemma Digits.someDigits?_eq :
    Reading.someDigits? ds = some (ds.map fun c => c.toNat - 48) := by
  rw [Reading.someDigits?, if_neg (by simpa using hds.ne_nil), hds.digits?_eq]

end

/-! ### Decimals in YAML -/

section

variable {whole fraction exponent : List Char} {e : Int} (hwhole : Digits whole)
  (hfraction : Digits fraction) (hexponent : Exponent exponent e)

include hexponent

lemma Exponent.exponent?_eq : Reading.exponent? exponent = some e := by
  cases hexponent with
  | none => rfl
  | signed hletter negative hds =>
    have hsign (ds : List Char) :
        Reading.sign ((if negative then '-' else '+') :: ds) = (negative, ds) := by
      cases negative <;> rfl
    rw [Reading.exponent?, if_pos hletter, hsign]
    simp only [hds.digits?_eq, Option.bind_eq_bind, Option.bind_some, ofDigits_toNat]
    rfl

lemma Exponent.head_eq : ∀ c ∈ exponent.head?, c = 'e' ∨ c = 'E' := by
  cases hexponent with
  | none => nofun
  | signed hletter =>
    rintro _ ⟨⟩
    exact hletter

lemma Exponent.isBlank_eq_false {c : Char} (hc : c ∈ exponent) : Text.isBlank c = false := by
  cases hexponent with
  | none => cases hc
  | signed hletter negative hds =>
    rcases List.mem_cons.1 hc with rfl | hc
    · rcases hletter with rfl | rfl <;> decide +kernel
    · rcases List.mem_cons.1 hc with rfl | hc
      · cases negative <;> decide +kernel
      · exact hds.isBlank_eq_false hc

include hwhole hfraction

lemma readDouble?_decimal : readDouble? (whole ++ '.' :: (fraction ++ exponent)) =
    some (Double.ofDecimal false (Json.digitsValue (whole ++ fraction)) (e - fraction.length)) := by
  have hblank : ∀ c ∈ whole ++ '.' :: (fraction ++ exponent), Text.isBlank c = false := by
    intro c hc
    simp only [List.mem_append, List.mem_cons] at hc
    rcases hc with hc | rfl | hc | hc
    · exact hwhole.isBlank_eq_false hc
    · decide +kernel
    · exact hfraction.isBlank_eq_false hc
    · exact hexponent.isBlank_eq_false hc
  have hmantissa : Reading.mantissa? (whole ++ '.' :: (fraction ++ exponent)) =
      some (⟨whole.map fun c => c.toNat - 48, fraction.map fun c => c.toNat - 48⟩, exponent) := by
    have hpoint := hwhole.digitSpan_eq ('.' :: (fraction ++ exponent)) (by
      rintro _ ⟨⟩
      decide +kernel)
    have hbehind := hfraction.digitSpan_eq exponent fun c hc => by
      rcases hexponent.head_eq c hc with rfl | rfl <;> decide +kernel
    simp only [Reading.mantissa?, hpoint, hbehind, hwhole.someDigits?_eq,
      hfraction.someDigits?_eq, Option.bind_eq_bind, Option.bind_some, List.isEmpty_map]
    rw [if_neg (by simp [hwhole.ne_nil])]
  obtain ⟨c, cs, rfl, hc⟩ := hwhole.exists_cons
  have hlower : (c.toLower != 'i' && c.toLower != 'n') = true :=
    of_isDigit (p := fun c => c.toLower != 'i' && c.toLower != 'n') (by decide) hc
  simp only [Bool.and_eq_true, bne_iff_ne] at hlower
  have hinf : String.ofList ((c :: cs ++ '.' :: (fraction ++ exponent)).map Char.toLower) ≠ "inf" :=
    ofList_ne fun h => hlower.1 (Option.some.inj h)
  have hinfinity :
      String.ofList ((c :: cs ++ '.' :: (fraction ++ exponent)).map Char.toLower) ≠ "infinity" :=
    ofList_ne fun h => hlower.1 (Option.some.inj h)
  have hnan : String.ofList ((c :: cs ++ '.' :: (fraction ++ exponent)).map Char.toLower) ≠ "nan" :=
    ofList_ne fun h => hlower.2 (Option.some.inj h)
  rw [readDouble?, trim_eq hblank]
  rw [List.cons_append, sign_of_isDigit hc, ← List.cons_append]
  simp only [Reading.unsignedDouble?, hinf, hinfinity, hnan, or_self, if_false, hmantissa,
    hexponent.exponent?_eq, Option.bind_eq_bind, Option.bind_some, List.length_map,
    ← List.map_append, ofDigits_toNat]
  rfl

end

/-! ### Plain scalars -/

namespace Yaml

section

variable {c : Char} {cs : List Char}

/-- Without a line feed at the end all of a text is visible. -/
lemma visible_eq_self (h : '\n' ∉ cs) : Form.visible cs = cs := by
  unfold Form.visible
  rw [if_neg]
  rw [beq_iff_eq]
  exact fun hlast => h (List.mem_of_mem_tail (List.mem_of_getLast? hlast))

/-- The words for booleans start with letters. -/
lemma isBool_eq_false {cs : List Char} (h : ∀ c ∈ cs.head?, c.isAlpha = false) :
    Form.isBool cs = false := by
  have hwords : ∀ s ∈ ["yes", "Yes", "YES", "no", "No", "NO", "true", "True", "TRUE", "false",
      "False", "FALSE", "on", "On", "ON", "off", "Off", "OFF"],
      s.toList.head?.any Char.isAlpha = true := by decide
  rw [← Bool.not_eq_true]
  intro hbool
  obtain ⟨c, hc, halpha⟩ := (Option.any_eq_true _ _).1 (hwords _ (List.contains_iff_mem.1 hbool))
  rw [String.toList_ofList] at hc
  exact absurd halpha (by simp [h c hc])

lemma isAlpha_of_isDigit (hc : c.isDigit = true) : c.isAlpha = false := by
  simpa using of_isDigit (p := fun c => !c.isAlpha) (by decide) hc

lemma head?_signText (negative : Bool) (hc : c.isDigit = true) :
    ∀ d ∈ (signText negative ++ c :: cs).head?, d = '-' ∨ d.isDigit = true := by
  cases negative <;> rintro _ ⟨⟩
  · exact .inr hc
  · exact .inl rfl

lemma withoutSign_signText (negative : Bool) (hc : c.isDigit = true) :
    Form.withoutSign (signText negative ++ c :: cs) = c :: cs := by
  have hsign : Form.isSign c = false := by
    simpa using of_isDigit (p := fun c => !Form.isSign c) (by decide) hc
  cases negative
  · show (if Form.isSign c then cs else c :: cs) = c :: cs
    rw [hsign, if_neg Bool.false_ne_true]
  · rfl

lemma isBool_numeral (negative : Bool) (hc : c.isDigit = true) :
    Form.isBool (signText negative ++ c :: cs) = false := by
  refine isBool_eq_false fun d hd => ?_
  rcases head?_signText negative hc d hd with rfl | hd
  · decide
  · exact isAlpha_of_isDigit hd

lemma dropWhile_digits {ds : List Char} (rest : List Char) (hds : ∀ c ∈ ds, c.isDigit = true)
    (hrest : ∀ c ∈ rest.head?, Form.isDigitOrLow c = false) :
    (ds ++ rest).dropWhile Form.isDigitOrLow = rest := by
  have h := span_append (p := Form.isDigitOrLow)
    (fun c hc => of_isDigit (p := Form.isDigitOrLow) (by decide) (hds c hc)) hrest
  rw [List.span_eq_takeWhile_dropWhile] at h
  exact congrArg Prod.snd h

/-- Only words with a point before them stand for infinity and for no number. -/
lemma contains_eq_false {words : List String} (hwords : ∀ s ∈ words, s.toList.head? = some '.')
    {cs : List Char} (h : cs.head? ≠ some '.') : words.contains (String.ofList cs) = false := by
  rw [← Bool.not_eq_true, List.contains_iff_mem]
  intro hm
  have hpoint := hwords _ hm
  rw [String.toList_ofList] at hpoint
  exact h hpoint

lemma head?_ne_point (negative : Bool) (hc : c.isDigit = true) (cs : List Char) :
    (signText negative ++ c :: cs).head? ≠ some '.' := by
  intro h
  rcases head?_signText negative hc _ h with h | h
  · cases h
  · exact absurd h (by decide)

lemma head?_beq_minus (negative : Bool) (hc : c.isDigit = true) :
    ((signText negative ++ c :: cs).head? == some '-') = negative := by
  cases negative
  · refine beq_false_of_ne fun h => ?_
    cases h
    exact absurd hc (by decide)
  · rfl

/-! #### Integers -/

lemma sixtieths_nil (fuel : Nat) : Form.sixtieths fuel [] = none := by cases fuel <;> rfl

lemma isFloat_int (negative : Bool) (hds : Digits (c :: cs)) :
    Form.isFloat (signText negative ++ c :: cs) = false := by
  have hc := hds.all c List.mem_cons_self
  have hpoint := head?_ne_point negative hc cs
  have hbody : (c :: cs).head? ≠ some '.' := head?_ne_point false hc cs
  have hbehind : (c :: cs).dropWhile Form.isDigitOrLow = [] := by
    simpa using dropWhile_digits [] hds.all nofun
  have hinf : [".inf", ".Inf", ".INF"].contains (String.ofList (c :: cs)) = false :=
    contains_eq_false (by decide) hbody
  have hnan : [".nan", ".NaN", ".NAN"].contains (String.ofList (signText negative ++ c :: cs))
      = false := contains_eq_false (by decide) hpoint
  simp only [Form.isFloat, withoutSign_signText negative hc, hbehind, sixtieths_nil, hinf, hnan,
    beq_false_of_ne hpoint, Bool.and_false, Bool.false_and, Bool.or_false]
  cases Form.startsWithDigit (c :: cs) <;> rfl

lemma isInt_int (negative : Bool) (hds : Digits (c :: cs)) (hc : c ≠ '0') :
    Form.isInt (signText negative ++ c :: cs) = true := by
  obtain ⟨hdigit, hcs⟩ := List.forall_mem_cons.1 hds.all
  have hall : cs.all Form.isDigitOrLow = true :=
    List.all_eq_true.2 fun d hd => of_isDigit (p := Form.isDigitOrLow) (by decide) (hcs d hd)
  unfold Form.isInt
  rw [withoutSign_signText negative hdigit]
  split
  · rfl
  · rename_i heq
    cases heq
    exact absurd rfl hc
  · rename_i heq
    cases heq
    exact absurd rfl hc
  · rename_i heq
    cases heq
    exact absurd rfl hc
  · rename_i heq
    cases heq
    rw [hdigit, hall]
    rfl
  · rename_i heq
    cases heq

lemma ofPlain_int (negative : Bool) (hds : Digits (c :: cs)) (hc : c ≠ '0') :
    Tag.ofPlain (signText negative ++ c :: cs) = .int := by
  have hdigit := hds.all c List.mem_cons_self
  have hvisible : '\n' ∉ signText negative ++ c :: cs := fun h => by
    rcases List.mem_append.1 h with h | h
    · exact absurd (of_mem_signText (p := (· != '\n')) rfl h) (by decide)
    · exact absurd (hds.all _ h) (by decide)
  simp only [Tag.ofPlain, visible_eq_self hvisible,
    isBool_numeral negative hdigit, isFloat_int negative hds,
    isInt_int negative hds hc, Bool.false_eq_true, if_false, if_true]

lemma integerOf_eq (negative : Bool) (hds : Digits (c :: cs)) (hc : c ≠ '0')
    (hlimit : (c :: cs).length ≤ digitLimit) :
    integerOf (signText negative ++ c :: cs) =
      .ok (.int (if negative then -(Json.digitsValue (c :: cs) : Int)
        else Json.digitsValue (c :: cs))) := by
  have hdigit := hds.all c List.mem_cons_self
  have hlow : (signText negative ++ c :: cs).filter (· != '_') = signText negative ++ c :: cs := by
    rw [List.filter_eq_self]
    intro d hd
    rcases List.mem_append.1 hd with hd | hd
    · exact of_mem_signText (p := (· != '_')) rfl hd
    · exact of_isDigit (p := (· != '_')) (by decide) (hds.all d hd)
  have hcolon : (c :: cs).contains ':' = false := by
    rw [← Bool.not_eq_true, List.contains_iff_mem]
    exact fun hm => absurd (hds.all _ hm) (by decide)
  have hread : readInteger 10 (c :: cs) = .ok (Json.digitsValue (c :: cs) : Int) :=
    hds.readInteger_eq hlimit
  have hmagnitude : magnitudeOf (c :: cs) = .ok (Json.digitsValue (c :: cs) : Int) := by
    unfold magnitudeOf
    split
    · rename_i heq
      cases heq
    · rename_i heq
      cases heq
      exact absurd rfl hc
    · rename_i heq
      cases heq
      exact absurd rfl hc
    · rename_i heq
      cases heq
      exact absurd rfl hc
    · rename_i heq
      cases heq
      exact absurd rfl hc
    · rw [hcolon, if_neg Bool.false_ne_true, integerIn, hread]
  simp only [integerOf, hlow, head?_beq_minus negative hdigit,
    withoutSign_signText negative hdigit, hmagnitude]
  rfl

/-! #### Decimals -/

lemma isNaN_ofRatio (negative : Bool) (num den : Nat) :
    (Double.ofRatio negative num den).isNaN = false := by
  simp only [Double.ofRatio, Double.ofMagnitude]
  split_ifs <;> rfl

/-- A decimal is a number, or infinite. -/
lemma isNaN_ofDecimal (negative : Bool) (n : Nat) (e : Int) :
    (Double.ofDecimal negative n e).isNaN = false := by
  simp only [Double.ofDecimal]
  split_ifs
  · rfl
  · rfl
  · exact isNaN_ofRatio _ _ _
  · exact isNaN_ofRatio _ _ _

lemma negate_ofRatio (num den : Nat) :
    negate (Double.ofRatio false num den) = Double.ofRatio true num den := by
  simp only [Double.ofRatio, Double.ofMagnitude]
  split_ifs <;> rfl

lemma negate_ofDecimal (n : Nat) (e : Int) :
    negate (Double.ofDecimal false n e) = Double.ofDecimal true n e := by
  simp only [Double.ofDecimal]
  split_ifs
  · rfl
  · rfl
  · exact negate_ofRatio _ _
  · exact negate_ofRatio _ _

/-- A number that is no word and has no colon is read as one double, its sign apart. -/
lemma floatOf_signText (negative : Bool) {text : List Char} {x : Double}
    (htext : (text.filter (· != '_')).map Char.toLower = signText negative ++ c :: cs)
    (hc : c.isDigit = true) (hcolon : ':' ∉ c :: cs) (hx : readDouble? (c :: cs) = some x) :
    floatOf text = .ok (.double (if negative then negate x else x)) := by
  have hpoint : (c :: cs).head? ≠ some '.' := head?_ne_point false hc cs
  have hcolon : (c :: cs).contains ':' = false := by
    rwa [← Bool.not_eq_true, List.contains_iff_mem]
  simp only [floatOf, htext, withoutSign_signText negative hc,
    head?_beq_minus negative hc]
  rw [if_neg (by simp)]
  split
  · exact absurd ‹_› (ofList_ne hpoint)
  · exact absurd ‹_› (ofList_ne hpoint)
  · rw [hcolon, if_neg Bool.false_ne_true, hx]

section

variable {whole fraction exponent : List Char} {e : Int} (hwhole : Digits whole)
  (hfraction : Digits fraction) (hexponent : Exponent exponent e)

include hexponent

lemma isExponent_of_exponent : (exponent.isEmpty || Form.isExponent exponent) = true := by
  cases hexponent with
  | none => rfl
  | @signed letter hletter negative ds hds =>
    have hall : Form.someOf Char.isDigit ds = true := by
      simpa [Form.someOf, hds.ne_nil] using hds.all
    rw [Form.isExponent, hall]
    rcases hletter with rfl | rfl <;> cases negative <;> rfl

/-- An exponent in small letters. -/
lemma exponent_toLower : Exponent (exponent.map Char.toLower) e := by
  cases hexponent with
  | none => exact .none
  | @signed letter hletter negative ds hds =>
    have hsmall : letter.toLower = 'e' := by rcases hletter with rfl | rfl <;> rfl
    have hsign : (if negative then '-' else '+').toLower = if negative then '-' else '+' := by
      cases negative <;> rfl
    rw [List.map_cons, List.map_cons, hsmall, hsign, hds.map_toLower]
    exact .signed (.inl rfl) negative hds

/-- A character that neither parts nor joins the parts of numbers. -/
def isInner (c : Char) : Bool := c != '_' && c != ':' && c != '\n'

lemma isInner_of_mem_exponent {c : Char} (hc : c ∈ exponent) : isInner c = true := by
  cases hexponent with
  | none => cases hc
  | @signed letter hletter negative ds hds =>
    rcases List.mem_cons.1 hc with rfl | hc
    · rcases hletter with rfl | rfl <;> rfl
    · rcases List.mem_cons.1 hc with rfl | hc
      · cases negative <;> rfl
      · exact of_isDigit (by decide) (hds.all c hc)

include hwhole hfraction

lemma isInner_of_mem_decimal {c : Char} (hc : c ∈ whole ++ '.' :: (fraction ++ exponent)) :
    isInner c = true := by
  have hdigit (c : Char) (hc : c.isDigit = true) : isInner c = true := of_isDigit (by decide) hc
  simp only [List.mem_append, List.mem_cons] at hc
  rcases hc with hc | rfl | hc | hc
  · exact hdigit c (hwhole.all c hc)
  · decide
  · exact hdigit c (hfraction.all c hc)
  · exact isInner_of_mem_exponent hexponent hc

lemma isInner_of_mem_signed (negative : Bool) {c : Char}
    (hc : c ∈ signText negative ++ (whole ++ '.' :: (fraction ++ exponent))) :
    isInner c = true := by
  rcases List.mem_append.1 hc with hc | hc
  · exact of_mem_signText rfl hc
  · exact isInner_of_mem_decimal hwhole hfraction hexponent hc

lemma ofPlain_decimal (negative : Bool) : Tag.ofPlain
    (signText negative ++ (whole ++ '.' :: (fraction ++ exponent))) = .float := by
  have hvisible : '\n' ∉ signText negative ++ (whole ++ '.' :: (fraction ++ exponent)) := fun h =>
    absurd (isInner_of_mem_signed hwhole hfraction hexponent negative h) (by decide)
  have hbehind := dropWhile_digits ('.' :: (fraction ++ exponent)) hwhole.all (by
    rintro _ ⟨⟩
    decide)
  have hfractionEnd := dropWhile_digits exponent hfraction.all fun c hc => by
    rcases hexponent.head_eq c hc with rfl | rfl <;> decide
  have hisFraction : Form.isFraction (fraction ++ exponent) = true := by
    rw [Form.isFraction, hfractionEnd]
    exact isExponent_of_exponent hexponent
  obtain ⟨c, cs, rfl, hc⟩ := hwhole.exists_cons
  rw [List.cons_append] at hbehind hvisible ⊢
  have hfloat : Form.isFloat (signText negative ++ c :: (cs ++ '.' :: (fraction ++ exponent)))
      = true := by
    simp only [Form.isFloat, withoutSign_signText negative hc, hbehind, List.tail_cons, hisFraction,
      Form.startsWithDigit, List.head?_cons, Option.any_some, hc]
    rfl
  simp only [Tag.ofPlain, visible_eq_self hvisible,
    isBool_numeral negative hc, hfloat,
    Bool.false_eq_true, if_false, if_true]

lemma floatOf_eq (negative : Bool) : floatOf
    (signText negative ++ (whole ++ '.' :: (fraction ++ exponent))) =
      .ok (.double (Double.ofDecimal negative (Json.digitsValue (whole ++ fraction))
        (e - fraction.length))) := by
  have hsmall := exponent_toLower hexponent
  have hchars : ∀ c ∈ signText negative ++ (whole ++ '.' :: (fraction ++ exponent)),
      (c != '_') = true := fun c hc => bne_iff_ne.2
    (ne_of_true_of_false (isInner_of_mem_signed hwhole hfraction hexponent negative hc) rfl)
  have hlow : ((signText negative ++ (whole ++ '.' :: (fraction ++ exponent))).filter
      (· != '_')).map Char.toLower =
        signText negative ++ (whole ++ '.' :: (fraction ++ exponent.map Char.toLower)) := by
    rw [List.filter_eq_self.2 hchars]
    simp only [List.map_append, List.map_cons, hwhole.map_toLower, hfraction.map_toLower]
    cases negative <;> rfl
  have hcolon : ':' ∉ whole ++ '.' :: (fraction ++ exponent.map Char.toLower) := fun h =>
    absurd (isInner_of_mem_decimal hwhole hfraction hsmall h) (by decide)
  have hread := readDouble?_decimal hwhole hfraction hsmall
  obtain ⟨c, cs, rfl, hc⟩ := hwhole.exists_cons
  rw [floatOf_signText negative hlow hc hcolon hread]
  cases negative
  · rw [if_neg Bool.false_ne_true]
  · rw [if_pos rfl, negate_ofDecimal]

end

end

/-- A plain scalar means what its tag makes of it. -/
lemma means_plain {text : Text} (tag : Tag) {v : Value} (htag : Tag.ofPlain text.chars = tag)
    (hscalar : isScalarTag tag = true) (hv : scalarOf tag text = .ok v) (halike : v.Alike v) :
    (Flow.scalar text true).Means v := by
  have heq : NodeReader.scalarTag none text true = tag := htag
  exact Flow.means_scalar (by rw [heq, hscalar]) (by rw [heq, hv]) halike

/-- A number of both formats is the same in YAML. -/
theorem means_numeral {w : List Char} {v : Value} (h : Numeral w v) :
    (Flow.scalar (String.ofList w) true).Means v := by
  cases h with
  | zero negative =>
    refine means_plain .int ?_ rfl ?_ (Value.alike_number.2 ⟨rfl, rfl⟩)
    · cases negative <;> decide +kernel
    · cases negative <;> rfl
  | int negative hds hd hlimit =>
    refine means_plain .int ?_ rfl ?_ (Value.alike_number.2 ⟨rfl, rfl⟩)
    · rw [Text.chars_ofString, String.toList_ofList, ofPlain_int negative hds hd]
    · rw [scalarOf, Text.chars_ofString, String.toList_ofList, integerOf_eq negative hds hd hlimit]
  | decimal negative hwhole hfraction hexponent =>
    refine means_plain .float ?_ rfl ?_ (Value.alike_number.2 ⟨rfl, isNaN_ofDecimal _ _ _⟩)
    · rw [Text.chars_ofString, String.toList_ofList,
        ofPlain_decimal hwhole hfraction hexponent negative]
    · rw [scalarOf, Text.chars_ofString, String.toList_ofList,
        floatOf_eq hwhole hfraction hexponent negative]

lemma means_null : (Flow.scalar "null" true).Means .null :=
  means_plain .null (by decide +kernel) rfl rfl ⟨rfl, rfl, rfl⟩

lemma means_bool (b : Bool) :
    (Flow.scalar (if b then "true" else "false") true).Means (.bool b) := by
  cases b
  · exact means_plain .bool (by decide +kernel) rfl rfl ⟨rfl, rfl, rfl⟩
  · exact means_plain .bool (by decide +kernel) rfl rfl ⟨rfl, rfl, rfl⟩

end Yaml

/-! ### Words and numbers in both formats -/

/-- A character of words and numbers. -/
def isWordChar (c : Char) : Bool := c.isAlphanum || c == '+' || c == '-' || c == '.'

/-- How a plain scalar of JSON starts: with a letter or a digit, or with a minus before a digit. -/
inductive PlainStart : List Char → Prop
  | alphanum {c : Char} (hc : c.isAlphanum = true) (cs : List Char) : PlainStart (c :: cs)
  | minus {c : Char} (hc : c.isDigit = true) (cs : List Char) : PlainStart ('-' :: c :: cs)

/-- A word that means a value in YAML, in characters that need no quotes. -/
structure PlainWord (w : List Char) (v : Value) : Prop where
  start : PlainStart w
  chars : ∀ c ∈ w, isWordChar c = true
  means : (Flow.scalar (String.ofList w) true).Means v

lemma Digits.isWordChar_of_mem {ds : List Char} (h : Digits ds) {c : Char} (hc : c ∈ ds) :
    isWordChar c = true := of_isDigit (p := isWordChar) (by decide) (h.all c hc)

lemma Exponent.isWordChar_of_mem {exponent : List Char} {e : Int} (h : Exponent exponent e)
    {c : Char} (hc : c ∈ exponent) : isWordChar c = true := by
  cases h with
  | none => cases hc
  | signed hletter negative hds =>
    rcases List.mem_cons.1 hc with rfl | hc
    · rcases hletter with rfl | rfl <;> decide
    · rcases List.mem_cons.1 hc with rfl | hc
      · cases negative <;> decide
      · exact hds.isWordChar_of_mem hc

lemma plainStart_signText (negative : Bool) {c : Char} (hc : c.isDigit = true) (cs : List Char) :
    PlainStart (signText negative ++ c :: cs) := by
  cases negative
  · exact .alphanum (of_isDigit (p := Char.isAlphanum) (by decide) hc) cs
  · exact .minus hc cs

lemma Numeral.plainWord {w : List Char} {v : Value} (h : Numeral w v) : PlainWord w v := by
  refine ⟨?_, ?_, means_numeral h⟩
  · cases h with
    | zero negative => exact plainStart_signText negative rfl []
    | int negative hds => exact plainStart_signText negative (hds.all _ List.mem_cons_self) _
    | decimal negative hwhole =>
      obtain ⟨c, cs, rfl, hc⟩ := hwhole.exists_cons
      exact plainStart_signText negative hc _
  · intro c hc
    cases h with
    | zero negative =>
      rcases List.mem_append.1 hc with hc | hc
      · exact of_mem_signText rfl hc
      · rw [List.mem_singleton.1 hc]
        decide
    | int negative hds =>
      rcases List.mem_append.1 hc with hc | hc
      · exact of_mem_signText rfl hc
      · exact hds.isWordChar_of_mem hc
    | decimal negative hwhole hfraction hexponent =>
      simp only [List.mem_append, List.mem_cons] at hc
      rcases hc with hc | hc | rfl | hc | hc
      · exact of_mem_signText rfl hc
      · exact hwhole.isWordChar_of_mem hc
      · decide
      · exact hfraction.isWordChar_of_mem hc
      · exact hexponent.isWordChar_of_mem hc

namespace Json

lemma not_isSeparator {c : Char} (h : isWordChar c = true) : isSeparator c = false ∧ c ≠ '"' := by
  have hne {d : Char} (hd : isWordChar d = false) : c ≠ d := ne_of_true_of_false h hd
  have hsign : ",:[]\x7b\x7d".toList.contains c = false := contains_eq_false_of_all h (by decide)
  refine ⟨?_, hne (by decide)⟩
  simp only [isSeparator, isBlank, hsign, Bool.or_eq_false_iff, beq_eq_false_iff_ne]
  exact ⟨⟨⟨⟨hne (by decide), hne (by decide)⟩, hne (by decide)⟩, hne (by decide)⟩, trivial⟩

lemma word?_eq_some {w cs rest : List Char} : word? w cs = some rest ↔ cs = w ++ rest := by
  induction w generalizing cs with
  | nil => simp [word?, eq_comm]
  | cons c w ih =>
    cases cs with
    | nil => simp [word?]
    | cons d cs =>
      simp only [word?]
      split_ifs with hc <;> simp_all [eq_comm]

/-- A word or a number starts with a character of words. -/
lemma exists_isWordChar {cs rest : List Char} {v : Value}
    (h : wordOrNumber cs = .ok (v, rest)) : ∃ c cs', cs = c :: cs' ∧ isWordChar c = true := by
  have hunsigned (start : List Char) (negative : Bool) (cs : List Char)
      (h : unsigned start negative cs = .ok (v, rest)) :
      ∃ c cs', cs = c :: cs' ∧ isWordChar c = true := by
    unfold unsigned at h
    split at h
    · cases h
    · rename_i whole more hne hw
      obtain ⟨rfl, hwhole, -⟩ := wholeDigits_eq hw hne
      obtain ⟨c, cs, rfl, hc⟩ := hwhole.exists_cons
      exact ⟨c, cs ++ more, rfl, of_isDigit (p := isWordChar) (by decide) hc⟩
  unfold wordOrNumber at h
  split at h
  · rename_i r hr
    obtain ⟨w, hw, hm⟩ := List.exists_of_findSome?_eq_some hr
    obtain ⟨rest', hrest, -⟩ := Option.map_eq_some_iff.1 hm
    have hstart : ∀ w ∈ words, w.1.head?.any isWordChar = true := by decide
    obtain ⟨c, hc, hword⟩ := (Option.any_eq_true _ _).1 (hstart w hw)
    obtain ⟨w', hw'⟩ := List.head?_eq_some_iff.1 hc
    exact ⟨c, w' ++ rest', by rw [word?_eq_some.1 hrest, hw']; rfl, hword⟩
  · unfold number at h
    split at h
    · exact ⟨'-', _, rfl, rfl⟩
    · exact hunsigned _ _ _ h

/-- A word or number of JSON in a shared text is a plain scalar of YAML with the same value. -/
theorem wordOrNumber_eq_ok {cs rest : List Char} {v : Value}
    (h : wordOrNumber cs = .ok (v, rest)) (hword : isSharedWord cs = true)
    (hnumber : isSharedNumber cs = true) : ∃ w, cs = w ++ rest ∧ PlainWord w v := by
  unfold wordOrNumber at h
  split at h
  · rename_i r hr
    cases h
    obtain ⟨⟨w, u⟩, hw, hm⟩ := List.exists_of_findSome?_eq_some hr
    obtain ⟨rest', hrest, heq⟩ := Option.map_eq_some_iff.1 hm
    cases heq
    have hcs := word?_eq_some.1 hrest
    have hother : word? "NaN".toList cs = none ∧ word? "Infinity".toList cs = none ∧
        word? "-Infinity".toList cs = none := by
      simpa [isSharedWord] using hword
    refine ⟨w, hcs, ?_⟩
    simp only [words, List.mem_cons, Prod.mk.injEq, List.not_mem_nil, or_false] at hw
    rcases hw with ⟨rfl, rfl⟩ | ⟨rfl, rfl⟩ | ⟨rfl, rfl⟩ | ⟨rfl, rfl⟩ | ⟨rfl, rfl⟩ | ⟨rfl, rfl⟩
    · exact ⟨.alphanum rfl _, List.all_eq_true.1 (by decide), means_null⟩
    · exact ⟨.alphanum rfl _, List.all_eq_true.1 (by decide), means_bool true⟩
    · exact ⟨.alphanum rfl _, List.all_eq_true.1 (by decide), means_bool false⟩
    · exact absurd (hrest.symm.trans hother.1) nofun
    · exact absurd (hrest.symm.trans hother.2.1) nofun
    · exact absurd (hrest.symm.trans hother.2.2) nofun
  · obtain ⟨w, hcs, hw⟩ := number_eq_ok h hnumber
    exact ⟨w, hcs, hw.plainWord⟩

end Json

end JsonSchema
