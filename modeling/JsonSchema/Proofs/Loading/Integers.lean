import JsonSchema.Document.Yaml.Build
import JsonSchema.Proofs.JsonForm
import JsonSchema.Proofs.Readers.PlainScalar

/-!
Texts that have the form of integers.

What such a text leaves without its sign and its underscores are digits in some base, or parts in
base sixty between colons. Main statement: it is read as an integer if there are digits in it, and
not too many.
-/

namespace JsonSchema

open Yaml

/-! ### Digits in a base -/

/-- Digits that are nothing else: no blanks, no signs, and no letters that announce the base. -/
def isDigitIn (base : Nat) (c : Char) : Bool :=
  (Reading.digit? base c).isSome && !Text.isBlank c && !(['_', '-', '+'].contains c)
    && Reading.baseLetter base != some c.toLower

section

variable {base : Nat} {c : Char} {ds : List Char}

lemma digit?_isSome (h : isDigitIn base c = true) : (Reading.digit? base c).isSome = true := by
  simp only [isDigitIn, Bool.and_eq_true] at h
  exact h.1.1.1

lemma isBlank_of_isDigitIn (h : isDigitIn base c = true) : Text.isBlank c = false := by
  simp only [isDigitIn, Bool.and_eq_true, Bool.not_eq_true'] at h
  exact h.1.1.2

lemma ne_sign_of_isDigitIn (h : isDigitIn base c = true) : c ≠ '_' ∧ c ≠ '-' ∧ c ≠ '+' := by
  simp only [isDigitIn, Bool.and_eq_true, Bool.not_eq_true', List.contains_eq_mem,
    decide_eq_false_iff_not, List.mem_cons, List.not_mem_nil, not_or] at h
  exact ⟨h.1.2.1, h.1.2.2.1, h.1.2.2.2.1⟩

lemma baseLetter_ne (h : isDigitIn base c = true) : Reading.baseLetter base ≠ some c.toLower := by
  simp only [isDigitIn, Bool.and_eq_true, bne_iff_ne] at h
  exact h.2

lemma exists_digits? (h : ∀ c ∈ ds, isDigitIn base c = true) :
    ∃ ns, Reading.digits? base false ds = some ns ∧ ns.length = ds.length := by
  induction ds with
  | nil => exact ⟨[], rfl, rfl⟩
  | cons c cs ih =>
    obtain ⟨hc, hcs⟩ := List.forall_mem_cons.1 h
    obtain ⟨n, hn⟩ := Option.isSome_iff_exists.1 (digit?_isSome hc)
    obtain ⟨ns, hns, hlength⟩ := ih hcs
    refine ⟨n :: ns, ?_, by rw [List.length_cons, List.length_cons, hlength]⟩
    rw [Reading.digits?, if_neg (ne_sign_of_isDigitIn hc).1, hn, hns]
    rfl

/-- Digits in a base are read as an integer, in base ten up to the limit. -/
lemma exists_readInteger (hne : ds ≠ []) (h : ∀ c ∈ ds, isDigitIn base c = true)
    (hlimit : base = 10 → ds.length ≤ digitLimit) : ∃ n, readInteger base ds = .ok n := by
  obtain ⟨c, cs, rfl⟩ := List.exists_cons_of_ne_nil hne
  obtain ⟨ns, hns, hlength⟩ := exists_digits? h
  have hc := ne_sign_of_isDigitIn (h c List.mem_cons_self)
  have hsign : Reading.sign (c :: cs) = (false, c :: cs) := by
    unfold Reading.sign
    split
    · rename_i heq
      exact absurd (List.cons.inj heq).1 hc.2.1
    · rename_i heq
      exact absurd (List.cons.inj heq).1 hc.2.2
    · rfl
  have hbase : Reading.withoutBase base (c :: cs) = c :: cs := by
    unfold Reading.withoutBase
    split
    · rename_i letter rest heq
      have hmem : letter ∈ c :: cs := by simp [heq]
      rw [if_neg (baseLetter_ne (h letter hmem))]
    · rfl
  have hagain : Reading.digits? base true (c :: cs) = some ns := by
    rw [← hns, Reading.digits?, Reading.digits?, if_neg hc.1, if_neg hc.1]
  refine ⟨Reading.ofDigits base ns, ?_⟩
  rw [readInteger, trim_eq fun d hd => isBlank_of_isDigitIn (h d hd), hsign]
  simp only [hbase, hagain]
  rw [if_neg fun hten => absurd hten.2 (by rw [hlength]; exact Nat.not_lt.2 (hlimit hten.1))]
  rfl

end

namespace Yaml

/-! ### Integers -/

/-- What holds of all characters from one to another. -/
lemma of_between {p : Char → Bool} {a b c : Char} (h : a ≤ c ∧ c ≤ b)
    (hp : (List.range' a.toNat (b.toNat + 1 - a.toNat)).all (fun n => p (Char.ofNat n)) = true) :
    p c = true := by
  have hleast : a.toNat ≤ c.toNat := h.1
  have hmost : c.toNat ≤ b.toNat := h.2
  have hmem : c.toNat ∈ List.range' a.toNat (b.toNat + 1 - a.toNat) := by
    rw [List.mem_range'_1]
    omega
  have hc := List.all_eq_true.1 hp _ hmem
  rwa [Char.ofNat_toNat] at hc

lemma isDigitIn_ten {c : Char} (h : c.isDigit = true) : isDigitIn 10 c = true :=
  of_isDigit (by decide +kernel) h

lemma isDigitIn_eight {c : Char} (h : '0' ≤ c ∧ c ≤ '7') : isDigitIn 8 c = true :=
  of_between h (by decide +kernel)

lemma isDigitIn_sixteen {c : Char} (h : isHexDigit c = true) : isDigitIn 16 c = true := by
  simp only [isHexDigit, Bool.or_eq_true, Bool.and_eq_true, decide_eq_true_eq] at h
  rcases h with (h | h) | h
  · exact of_isDigit (by decide +kernel) h
  · exact of_between h (by decide +kernel)
  · exact of_between h (by decide +kernel)

/-- A text without its sign and its underscores. -/
def bareText (cs : List Char) : List Char := Form.withoutSign (cs.filter (· != '_'))

section

variable {cs rest : List Char} {c : Char}

/-- Signs are no underscores, so it does not matter what is taken away first. -/
lemma bareText_eq (h : (Form.withoutSign cs).head? ≠ some '_') :
    bareText cs = (Form.withoutSign cs).filter (· != '_') := by
  cases cs with
  | nil => rfl
  | cons c cs =>
    rw [Form.withoutSign] at h
    split at h
    · rename_i hsign
      have hlow : (c != '_') = true := by
        rcases Bool.or_eq_true _ _ ▸ hsign with h | h <;> rw [beq_iff_eq.1 h] <;> rfl
      simp only [bareText, List.filter_cons, hlow, if_true, Form.withoutSign, hsign]
    · rename_i hsign
      have hlow : (c != '_') = true := bne_iff_ne.2 fun hc => h (congrArg some hc)
      simp only [bareText, List.filter_cons, hlow, if_true, Form.withoutSign, if_neg hsign]

/-- Digits and underscores, the underscores taken away. -/
lemma isDigitIn_filter {base : Nat} {p : Char → Bool}
    (hp : ∀ c, p c = true → c = '_' ∨ isDigitIn base c = true) (h : cs.all p = true) :
    ∀ c ∈ cs.filter (· != '_'), isDigitIn base c = true := by
  intro c hc
  obtain ⟨hmem, hlow⟩ := List.mem_filter.1 hc
  rcases hp c (List.all_eq_true.1 h c hmem) with rfl | hdigit
  · cases hlow
  · exact hdigit

end

/-! ### The forms of digits -/

section

variable {c : Char}

lemma isDigitIn_of_isBit (h : (c == '0' || c == '1' || c == '_') = true) :
    c = '_' ∨ isDigitIn 2 c = true := by
  simp only [Bool.or_eq_true, beq_iff_eq] at h
  rcases h with (rfl | rfl) | rfl
  · exact .inr (by decide +kernel)
  · exact .inr (by decide +kernel)
  · exact .inl rfl

lemma isDigitIn_of_isHexOrLow (h : Form.isHexOrLow c = true) :
    c = '_' ∨ isDigitIn 16 c = true := by
  rw [Form.isHexOrLow, Bool.or_eq_true, beq_iff_eq] at h
  exact h.symm.imp_right isDigitIn_sixteen

lemma isDigitIn_of_isOctalOrLow (h : Form.isOctalOrLow c = true) :
    c = '_' ∨ isDigitIn 8 c = true := by
  simp only [Form.isOctalOrLow, Bool.or_eq_true, Bool.and_eq_true, decide_eq_true_eq,
    beq_iff_eq] at h
  exact h.symm.imp_right isDigitIn_eight

lemma isDigitIn_of_isDigitOrLow (h : Form.isDigitOrLow c = true) :
    c = '_' ∨ isDigitIn 10 c = true := by
  rw [Form.isDigitOrLow, Bool.or_eq_true, beq_iff_eq] at h
  exact h.symm.imp_right isDigitIn_ten

end

/-! ### Base sixty -/

/-- The parts of a number in base sixty behind the first one. -/
def colonText (parts : List (List Char)) : List Char := parts.flatMap (':' :: ·)

/-- One or two digits. -/
structure IsPart (ds : List Char) : Prop where
  digits : Digits ds
  short : ds.length ≤ 2

lemma IsPart.not_mem_colon {ds : List Char} (h : IsPart ds) : ':' ∉ ds :=
  fun hm => absurd (h.digits.all _ hm) (by decide)

lemma exists_part {cs rest : List Char} (h : Form.sixtiethsPart cs = some rest) :
    ∃ ds, IsPart ds ∧ cs = ':' :: ds ++ rest := by
  unfold Form.sixtiethsPart at h
  split at h
  · rename_i a b rest'
    split_ifs at h with hdigits _ hone
    · obtain ⟨ha, hb⟩ := (Bool.and_eq_true _ _ ▸ hdigits : _ ∧ _)
      obtain rfl := Option.some.inj h
      exact ⟨[a, b], ⟨⟨nofun, by simp [ha, hb]⟩, Nat.le_refl 2⟩, rfl⟩
    · obtain rfl := Option.some.inj h
      exact ⟨[a], ⟨⟨nofun, by simp [hone]⟩, Nat.le_succ 1⟩, rfl⟩
  · rename_i a
    split_ifs at h with hone
    obtain rfl := Option.some.inj h
    exact ⟨[a], ⟨⟨nofun, by simp [hone]⟩, Nat.le_succ 1⟩, rfl⟩
  · cases h

lemma exists_parts {fuel : Nat} {cs rest : List Char} (h : Form.sixtieths fuel cs = some rest) :
    ∃ parts, parts ≠ [] ∧ (∀ p ∈ parts, IsPart p) ∧ cs = colonText parts ++ rest := by
  induction fuel generalizing cs with
  | zero => cases h
  | succ fuel ih =>
    rw [Form.sixtieths] at h
    split at h
    · cases h
    · rename_i behind hpart
      obtain ⟨ds, hds, rfl⟩ := exists_part hpart
      split_ifs at h with hmore
      · obtain ⟨parts, -, hparts, rfl⟩ := ih h
        exact ⟨ds :: parts, nofun, List.forall_mem_cons.2 ⟨hds, hparts⟩, by simp [colonText]⟩
      · obtain rfl := Option.some.inj h
        exact ⟨[ds], nofun, by simpa using hds, by simp [colonText]⟩

lemma intercalate_colon (first : List Char) (parts : List (List Char)) :
    [':'].intercalate (first :: parts) = first ++ colonText parts := by
  induction parts generalizing first with
  | nil => simp [colonText]
  | cons p parts ih =>
    rw [List.intercalate_cons_cons, ih]
    simp [colonText]

lemma splitOn_colonText {first : List Char} {parts : List (List Char)}
    (h : ∀ p ∈ first :: parts, ':' ∉ p) :
    (first ++ colonText parts).splitOn ':' = first :: parts := by
  rw [← intercalate_colon, List.splitOn_intercalate ':' h (List.cons_ne_nil _ _)]

lemma takeWhile_colonText {first : List Char} (parts : List (List Char)) (h : ':' ∉ first) :
    (first ++ colonText parts).takeWhile (· != ':') = first := by
  have hfirst : ∀ c ∈ first, (c != ':') = true := fun c hc =>
    bne_iff_ne.2 fun heq => h (heq ▸ hc)
  rw [List.takeWhile_append_of_pos hfirst]
  cases parts <;> simp [colonText]

/-- Parts are neither in capitals nor joined by underscores. -/
lemma of_mem_colonText {p : Char → Bool} (hcolon : p ':' = true)
    (hp : (List.range 10).all (fun n => p (Char.ofNat (n + 48))) = true)
    {parts : List (List Char)} (h : ∀ ds ∈ parts, IsPart ds) :
    ∀ c ∈ colonText parts, p c = true := by
  intro c hc
  obtain ⟨ds, hds, hc⟩ := List.mem_flatMap.1 hc
  rcases List.mem_cons.1 hc with rfl | hc
  · exact hcolon
  · exact of_isDigit hp ((h ds hds).digits.all c hc)

/-! ### The forms of integers -/

/-- What the form of an integer leaves, sign and underscores aside. -/
inductive IntegerText : List Char → Prop
  | zero : IntegerText ['0']
  | binary {ds : List Char} (h : ∀ c ∈ ds, isDigitIn 2 c = true) : IntegerText ('0' :: 'b' :: ds)
  | hexadecimal {ds : List Char} (h : ∀ c ∈ ds, isDigitIn 16 c = true) :
    IntegerText ('0' :: 'x' :: ds)
  | octal {ds : List Char} (hne : ds ≠ []) (h : ∀ c ∈ ds, isDigitIn 8 c = true) :
    IntegerText ('0' :: ds)
  | decimal {c : Char} {ds : List Char} {parts : List (List Char)} (hc : c ≠ '0')
    (h : ∀ d ∈ c :: ds, isDigitIn 10 d = true) (hparts : ∀ p ∈ parts, IsPart p) :
    IntegerText (c :: ds ++ colonText parts)

/-- A zero and no further digits but underscores is zero. -/
lemma IntegerText.of_octal {ds : List Char} (h : ∀ c ∈ ds, isDigitIn 8 c = true) :
    IntegerText ('0' :: ds) := by
  by_cases hne : ds = []
  · exact hne ▸ .zero
  · exact .octal hne h

/-- Digits and underscores, and parts in base sixty if there are any. -/
lemma exists_digits_parts {fuel : Nat} {cs : List Char} (h : (cs.all Form.isDigitOrLow ||
    Form.sixtieths fuel (cs.dropWhile Form.isDigitOrLow) == some []) = true) :
    ∃ ds parts, ds.all Form.isDigitOrLow = true ∧ (∀ p ∈ parts, IsPart p) ∧
      cs = ds ++ colonText parts := by
  rcases Bool.or_eq_true _ _ ▸ h with hall | hsixty
  · exact ⟨cs, [], hall, nofun, (List.append_nil cs).symm⟩
  · obtain ⟨parts, -, hparts, hbehind⟩ := exists_parts (beq_iff_eq.1 hsixty)
    refine ⟨cs.takeWhile Form.isDigitOrLow, parts, List.all_takeWhile, hparts, ?_⟩
    rw [List.append_nil] at hbehind
    rw [← hbehind, List.takeWhile_append_dropWhile]

/-- The form of an integer, and what it leaves. -/
lemma integerText_of_isInt {cs : List Char} (hform : Form.isInt cs = true) :
    IntegerText (bareText cs) := by
  have hbare {raw : List Char} (hraw : Form.withoutSign cs = raw) (hlow : raw.head? ≠ some '_') :
      bareText cs = raw.filter (· != '_') := by
    rw [bareText_eq (by rwa [hraw]), hraw]
  unfold Form.isInt at hform
  split at hform
  · rename_i hraw
    rw [hbare hraw (by simp)]
    exact .zero
  · rename_i rest hraw
    rw [hbare hraw (by simp)]
    exact .binary (isDigitIn_filter (fun _ => isDigitIn_of_isBit)
      (Bool.and_eq_true _ _ ▸ hform : _ ∧ _).2)
  · rename_i rest hraw
    rw [hbare hraw (by simp)]
    exact .hexadecimal (isDigitIn_filter (fun _ => isDigitIn_of_isHexOrLow)
      (Bool.and_eq_true _ _ ▸ hform : _ ∧ _).2)
  · rename_i rest _ _ _ hraw
    rw [hbare hraw (by simp), List.filter_cons_of_pos (by rfl)]
    exact .of_octal (isDigitIn_filter (fun _ => isDigitIn_of_isOctalOrLow)
      (Bool.and_eq_true _ _ ▸ hform : _ ∧ _).2)
  · rename_i c rest _ _ _ hzero hraw
    obtain ⟨hc, hrest⟩ := (Bool.and_eq_true _ _ ▸ hform : _ ∧ _)
    obtain ⟨ds, parts, hds, hparts, rfl⟩ := exists_digits_parts hrest
    have hlow : (c != '_') = true := of_isDigit (p := (· != '_')) (by decide) hc
    rw [hbare hraw (by simpa using bne_iff_ne.1 hlow), List.filter_cons, if_pos hlow,
      List.filter_append, List.filter_eq_self.2 (of_mem_colonText (by rfl) (by decide) hparts)]
    exact .decimal hzero (List.forall_mem_cons.2
      ⟨isDigitIn_ten hc, isDigitIn_filter (fun _ => isDigitIn_of_isDigitOrLow) hds⟩) hparts
  · cases hform

/-! ### Values of integers -/

section

variable {c : Char} {ds : List Char}

lemma exists_integerIn {base : Nat} (hne : ds ≠ []) (h : ∀ c ∈ ds, isDigitIn base c = true)
    (hlimit : base = 10 → ds.length ≤ digitLimit) : ∃ n, integerIn base ds = .ok n := by
  obtain ⟨n, hn⟩ := exists_readInteger hne h hlimit
  exact ⟨n, by rw [integerIn, hn]⟩

lemma IsPart.exists_integerIn (h : IsPart ds) : ∃ n, integerIn 10 ds = .ok n :=
  Yaml.exists_integerIn h.digits.ne_nil (fun c hc => isDigitIn_ten (h.digits.all c hc)) fun _ =>
    h.short.trans (by decide)

/-- Digits in base eight behind a zero, which is read with them. -/
lemma exists_magnitudeOf_octal (hne : ds ≠ []) (h : ∀ c ∈ ds, isDigitIn 8 c = true) :
    ∃ n, magnitudeOf ('0' :: ds) = .ok n := by
  have hzero : ∀ c ∈ '0' :: ds, isDigitIn 8 c = true :=
    List.forall_mem_cons.2 ⟨by decide +kernel, h⟩
  obtain ⟨n, hn⟩ := exists_integerIn (List.cons_ne_nil _ _) hzero nofun
  unfold magnitudeOf
  split
  · rename_i heq
    cases heq
  · exact ⟨_, rfl⟩
  · rename_i heq
    cases heq
    exact absurd (h 'b' List.mem_cons_self) (by decide +kernel)
  · rename_i heq
    cases heq
    exact absurd (h 'x' List.mem_cons_self) (by decide +kernel)
  · exact ⟨n, hn⟩
  · rename_i hother
    exact absurd rfl (hother _)

lemma exists_mapM {ε α β : Type} {f : α → Except ε β} {as : List α}
    (h : ∀ a ∈ as, ∃ b, f a = .ok b) : ∃ bs, as.mapM f = .ok bs := by
  induction as with
  | nil => exact ⟨[], rfl⟩
  | cons a as ih =>
    obtain ⟨⟨b, hb⟩, has⟩ := List.forall_mem_cons.1 h
    obtain ⟨bs, hbs⟩ := ih has
    exact ⟨b :: bs, by rw [List.mapM_cons, hb, hbs]; rfl⟩

/-- Digits in base ten that start with no zero, and parts in base sixty. -/
lemma exists_magnitudeOf_decimal {parts : List (List Char)} (hc : c ≠ '0')
    (h : ∀ d ∈ c :: ds, isDigitIn 10 d = true) (hparts : ∀ p ∈ parts, IsPart p)
    (hlength : (c :: ds).length ≤ digitLimit) :
    ∃ n, magnitudeOf (c :: ds ++ colonText parts) = .ok n := by
  have hfirst := exists_integerIn (List.cons_ne_nil _ _) h fun _ => hlength
  have hcolon : ':' ∉ c :: ds := fun hm => absurd (h _ hm) (by decide +kernel)
  unfold magnitudeOf
  split
  · rename_i heq
    cases heq
  · rename_i heq
    exact absurd (List.cons.inj heq).1 hc
  · rename_i heq
    exact absurd (List.cons.inj heq).1 hc
  · rename_i heq
    exact absurd (List.cons.inj heq).1 hc
  · rename_i heq
    exact absurd (List.cons.inj heq).1 hc
  · split
    · have hall : ∀ p ∈ (c :: ds) :: parts, ':' ∉ p :=
        List.forall_mem_cons.2 ⟨hcolon, fun p hp => (hparts p hp).not_mem_colon⟩
      obtain ⟨ns, hns⟩ := exists_mapM (f := integerIn 10)
        (List.forall_mem_cons.2 ⟨hfirst, fun p hp => (hparts p hp).exists_integerIn⟩)
      rw [splitOn_colonText hall, hns]
      exact ⟨_, rfl⟩
    · rename_i hnone
      have hparts : parts = [] := by
        cases parts with
        | nil => rfl
        | cons p parts => exact absurd (by simp [colonText]) hnone
      rw [hparts, colonText, List.flatMap_nil, List.append_nil]
      exact hfirst

/-- An integer has digits, and not too many: in base ten as many as are read, up to the first
colon. -/
def isShortInteger (cs : List Char) : Bool :=
  let bare := bareText cs
  bare != "0b".toList && bare != "0x".toList &&
    (bare.head? == some '0' || (bare.takeWhile (· != ':')).length ≤ digitLimit)

theorem exists_integerOf {cs : List Char} (hform : Form.isInt cs = true)
    (hshort : isShortInteger cs = true) : ∃ v, integerOf cs = .ok v := by
  have htext := integerText_of_isInt hform
  simp only [isShortInteger, Bool.and_eq_true, bne_iff_ne, Bool.or_eq_true, beq_iff_eq,
    decide_eq_true_eq] at hshort
  suffices h : ∃ n, magnitudeOf (bareText cs) = .ok n by
    obtain ⟨n, hn⟩ := h
    exact ⟨_, congrArg (Except.map _) hn⟩
  generalize bareText cs = body at htext hshort
  obtain ⟨⟨hbinary, hhex⟩, hlimit⟩ := hshort
  cases htext with
  | zero => exact ⟨0, rfl⟩
  | binary h => exact exists_integerIn (fun hds => hbinary (by rw [hds]; rfl)) h nofun
  | hexadecimal h => exact exists_integerIn (fun hds => hhex (by rw [hds]; rfl)) h nofun
  | octal hne h => exact exists_magnitudeOf_octal hne h
  | @decimal c ds parts hc h hparts =>
    have hcolon : ':' ∉ c :: ds := fun hm => absurd (h _ hm) (by decide +kernel)
    rw [takeWhile_colonText parts hcolon] at hlimit
    exact exists_magnitudeOf_decimal hc h hparts
      (hlimit.resolve_left fun hzero => hc (Option.some.inj hzero))

end

end Yaml

end JsonSchema
