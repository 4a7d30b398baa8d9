import JsonSchema.Document.Load
import JsonSchema.Proofs.Loading.Ends
import JsonSchema.Proofs.Readers.PlainScalar

/-!
How reading JSON fails.

The reader of JSON has two kinds of errors, of which only one is told as a fault of loading; the
other needs an integer of more digits than are read. Digits in strings, in fractions and in
exponents are as many as they like. Main statement: a text whose integers are short has a value or
is malformed.
-/

namespace JsonSchema.Json

/-- The number that a text starts with, its sign left out, has a fraction or an exponent, or no more
digits than are read. -/
def hasShortInteger (cs : List Char) : Bool :=
  let (whole, rest) := wholeDigits cs
  let (fraction, rest) := fractionDigits rest
  whole.length ≤ digitLimit || !fraction.isEmpty || (exponent? rest).isSome

def isShortStart : List Char → Bool
  | '-' :: rest => hasShortInteger rest
  | cs => hasShortInteger cs

/-- No integer of a text has more digits than are read. -/
def hasShortIntegers (setting : Setting) (cs : List Char) : Bool :=
  (starts setting cs).all isShortStart

section

variable {c : Char} {cs rest : List Char}

/-! ### What is left of a text -/

lemma hasShortIntegers_iff {setting : Setting} :
    hasShortIntegers setting cs = true ↔ ∀ p ∈ starts setting cs, isShortStart p = true :=
  List.all_eq_true

lemma hasShortIntegers_skipBlanks (h : hasShortIntegers .between cs = true) :
    hasShortIntegers .between (skipBlanks cs) = true := by
  rwa [hasShortIntegers, starts_skipBlanks]

lemma hasShortIntegers_separator (h : hasShortIntegers .between (c :: cs) = true)
    (hc : isSeparator c = true) : hasShortIntegers .between cs = true := by
  rwa [hasShortIntegers, starts_separator hc] at h

/-- Where a word may go on, no more words start than where none does. -/
lemma hasShortIntegers_word (h : hasShortIntegers .between cs = true) :
    hasShortIntegers .word cs = true := by
  rw [hasShortIntegers_iff] at h ⊢
  intro p hp
  refine h p ?_
  cases cs with
  | nil => exact hp
  | cons c cs =>
    simp only [starts, reduceCtorEq, if_true, if_false] at hp ⊢
    split_ifs at hp ⊢
    · exact hp
    · exact hp
    · exact List.mem_cons_of_mem _ hp

/-- Behind blanks and a separator no word goes on. -/
lemma hasShortIntegers_behind (h : hasShortIntegers .word cs = true)
    (hcs : skipBlanks cs = c :: rest) (hc : isSeparator c = true) :
    hasShortIntegers .between rest = true := by
  cases cs with
  | nil => cases hcs
  | cons d cs =>
    by_cases hd : isBlank d = true
    · have hskip : skipBlanks cs = c :: rest := by
        rwa [skipBlanks, List.dropWhile_cons_of_pos hd] at hcs
      rwa [hasShortIntegers, starts_word_separator (by simp [isSeparator, hd]),
        ← starts_skipBlanks, hskip, starts_separator hc] at h
    · rw [skipBlanks_cons (by simpa using hd)] at hcs
      cases hcs
      rwa [hasShortIntegers, starts_word_separator hc] at h

/-- A text that starts with no word and no number starts with no long one. -/
lemma isShortStart_self (h : hasShortIntegers .between cs = true) : isShortStart cs = true := by
  cases cs with
  | nil => rfl
  | cons c cs =>
    by_cases hc : isWordChar c = true
    · obtain ⟨hseparator, hquote⟩ := not_isSeparator hc
      exact hasShortIntegers_iff.1 h _ (by simp [starts, hseparator, hquote])
    · have hdigit : ¬c.isDigit = true := fun hd => hc (of_isDigit (p := isWordChar) (by decide) hd)
      have hminus : c ≠ '-' := by
        rintro rfl
        exact hc rfl
      have hzero : c ≠ '0' := by
        rintro rfl
        exact hdigit rfl
      have hwhole : wholeDigits (c :: cs) = ([], c :: cs) := by
        simp [wholeDigits, hzero, List.span_eq_takeWhile_dropWhile, hdigit]
      simp [isShortStart, hminus, hasShortInteger, hwhole]

/-! ### Words -/

/-- Only characters of words stand before what is left. -/
def IsPastWord (rest cs : List Char) : Prop :=
  ∃ w : List Char, (∀ c ∈ w, isWordChar c = true) ∧ cs = w ++ rest

namespace IsPastWord

lemma refl (cs : List Char) : IsPastWord cs cs := ⟨[], List.forall_mem_nil _, rfl⟩

lemma cons (hc : isWordChar c = true) (h : IsPastWord rest cs) : IsPastWord rest (c :: cs) := by
  obtain ⟨w, hw, rfl⟩ := h
  exact ⟨c :: w, List.forall_mem_cons.2 ⟨hc, hw⟩, rfl⟩

lemma trans {cs' : List Char} (h : IsPastWord rest cs) (h' : IsPastWord cs cs') :
    IsPastWord rest cs' := by
  obtain ⟨w, hw, rfl⟩ := h
  obtain ⟨w', hw', rfl⟩ := h'
  exact ⟨w' ++ w, List.forall_mem_append.2 ⟨hw', hw⟩, (List.append_assoc w' w rest).symm⟩

lemma of_span {digits : List Char} (h : cs.span Char.isDigit = (digits, rest)) :
    IsPastWord rest cs := by
  obtain ⟨hcs, hall⟩ := span_isDigit h
  exact ⟨digits, fun c hc => of_isDigit (p := isWordChar) (by decide) (hall c hc), hcs⟩

/-- What is left of a text behind a word may go on with the word. -/
lemma hasShortIntegers (h : IsPastWord rest cs) (hcs : hasShortIntegers .between cs = true) :
    Json.hasShortIntegers .word rest = true := by
  obtain ⟨w, hw, rfl⟩ := h
  have hword := hasShortIntegers_word hcs
  rwa [Json.hasShortIntegers, starts_word fun c hc => not_isSeparator (hw c hc)] at hword

end IsPastWord

lemma isPastWord_wholeDigits (cs : List Char) : IsPastWord (wholeDigits cs).2 cs := by
  unfold wholeDigits
  split
  · exact .cons (by decide) (.refl _)
  · exact .of_span rfl

lemma isPastWord_fractionDigits (cs : List Char) : IsPastWord (fractionDigits cs).2 cs := by
  unfold fractionDigits
  split
  · split
    · exact .refl _
    · exact .cons (by decide) (.of_span rfl)
  · exact .refl _

lemma isPastWord_exponentSign (cs : List Char) : IsPastWord (exponentSign cs).2 cs := by
  unfold exponentSign
  split
  · exact .cons (by decide) (.refl _)
  · exact .cons (by decide) (.refl _)
  · exact .refl _

lemma isPastWord_exponent? : ∀ r ∈ exponent? cs, IsPastWord r.2 cs := by
  intro r hr
  unfold exponent? at hr
  split at hr
  · rename_i c more
    split at hr
    · rename_i hletter
      have hc : isWordChar c = true := by rcases hletter with rfl | rfl <;> decide
      dsimp only at hr
      split at hr
      · cases hr
      · rename_i digits rest _ hspan
        cases hr
        exact .cons hc (.trans (.of_span hspan) (isPastWord_exponentSign more))
    · cases hr
  · cases hr

/-! ### Numbers -/

/-- What is read of a word or a number are its characters, and no long integer is met. -/
def ReadsWord (cs : List Char) (r : Read α) : Prop :=
  Ends (· ≠ .tooManyDigits) (fun a => IsPastWord a.2 cs) r

lemma ends_malformed {message : String} {right : α → Prop} :
    Ends (· ≠ Error.tooManyDigits) right (.error (.malformed message cs)) := by
  rintro ⟨⟩

lemma ends_integer {negative : Bool} {digits : List Char} (h : digits.length ≤ digitLimit) :
    Ends (· ≠ .tooManyDigits) (fun _ => True) (integer negative digits) := by
  rw [integer, if_neg (by omega)]
  exact .ok trivial

lemma readsWord_unsigned (start : List Char) (negative : Bool) (h : hasShortInteger cs = true) :
    ReadsWord cs (unsigned start negative cs) := by
  have hwhole := isPastWord_wholeDigits cs
  unfold unsigned
  split
  · exact ends_malformed
  · rename_i whole more _ hparts
    rw [hparts] at hwhole
    have hfraction := (isPastWord_fractionDigits more).trans hwhole
    simp only [hasShortInteger, hparts] at h
    dsimp only
    split
    · rename_i e rest he
      exact .ok ((isPastWord_exponent? _ he).trans hfraction)
    · rename_i he
      split
      · rename_i hempty
        have hlength : whole.length ≤ digitLimit := by simpa [hempty, he] using h
        exact Ends.map (ends_integer hlength) fun _ _ => hfraction
      · exact .ok hfraction

lemma readsWord_number (h : isShortStart cs = true) : ReadsWord cs (number cs) := by
  unfold number
  unfold isShortStart at h
  split
  · exact Ends.mono (readsWord_unsigned _ _ h) fun a ha => .cons (by decide) ha
  · rename_i hminus
    split at h
    · exact absurd rfl (hminus _)
    · exact readsWord_unsigned _ _ h

lemma readsWord_wordOrNumber (h : isShortStart cs = true) : ReadsWord cs (wordOrNumber cs) := by
  unfold wordOrNumber
  split
  · rename_i r hr
    obtain ⟨w, hw, hm⟩ := List.exists_of_findSome?_eq_some hr
    obtain ⟨rest, hrest, rfl⟩ := Option.map_eq_some_iff.1 hm
    have hwords : ∀ w ∈ words, w.1.all isWordChar = true := by decide
    exact .ok ⟨w.1, List.all_eq_true.1 (hwords w hw), word?_eq_some.1 hrest⟩
  · exact readsWord_number h

/-! ### Values -/

/-- What is read of a text with short integers: no long one is met, and none is left. -/
def ReadsShort (r : Read α) : Prop :=
  Ends (· ≠ .tooManyDigits) (fun a => hasShortIntegers .word a.2 = true) r

lemma stringBody_malformed (start cs : List Char) :
    Ends (· ≠ .tooManyDigits) (fun _ => True) (stringBody start cs) := by
  fun_induction stringBody start cs
  case case3 ih | case4 ih | case6 ih | case7 ih | case10 ih | case14 ih =>
    exact ih.map fun _ _ => trivial
  case case2 => exact .ok trivial
  all_goals exact ends_malformed

/-- Behind a string no word goes on. -/
lemma ends_stringBody (start : List Char) (h : hasShortIntegers .between ('"' :: cs) = true) :
    Ends (· ≠ .tooManyDigits) (fun a => hasShortIntegers .between a.2 = true)
      (stringBody start cs) := by
  have hmalformed := stringBody_malformed start cs
  cases hbody : stringBody start cs with
  | error e => rwa [hbody] at hmalformed
  | ok r =>
    refine .ok (hasShortIntegers_iff.2 fun p hp => ?_)
    refine hasShortIntegers_iff.1 h p (List.mem_cons_of_mem _ ?_)
    rwa [starts_string (stringReads_of_stringBody hbody)]

/-- All readers read texts with short integers well, to some depth. -/
structure ReadShort (fuel : Nat) : Prop where
  value : ∀ cs, hasShortIntegers .between cs = true → ReadsShort (value fuel cs)
  elements : ∀ cs, hasShortIntegers .between cs = true → ReadsShort (elements fuel cs)
  members : ∀ cs done, hasShortIntegers .between cs = true → ReadsShort (members fuel cs done)

lemma ReadShort.succ_value {fuel : Nat} (ih : ReadShort fuel)
    (h : hasShortIntegers .between cs = true) : ReadsShort (Json.value (fuel + 1) cs) := by
  unfold Json.value
  split
  · exact (ends_stringBody _ h).map fun _ ha => hasShortIntegers_word ha
  · have hrest := hasShortIntegers_separator h (by decide)
    split
    · rename_i hclose
      exact .ok (hasShortIntegers_word
        (hasShortIntegers_behind (hasShortIntegers_word hrest) hclose (by decide)))
    · exact (ih.members _ [] (hasShortIntegers_skipBlanks hrest)).map fun _ ha => ha
  · have hrest := hasShortIntegers_separator h (by decide)
    split
    · rename_i hclose
      exact .ok (hasShortIntegers_word
        (hasShortIntegers_behind (hasShortIntegers_word hrest) hclose (by decide)))
    · exact (ih.elements _ (hasShortIntegers_skipBlanks hrest)).map fun _ ha => ha
  · exact (readsWord_wordOrNumber (isShortStart_self h)).mono fun _ ha => ha.hasShortIntegers h

lemma ReadShort.succ_elements {fuel : Nat} (ih : ReadShort fuel)
    (h : hasShortIntegers .between cs = true) : ReadsShort (Json.elements (fuel + 1) cs) := by
  unfold Json.elements
  refine .bind (ih.value cs h) fun v hv => ?_
  dsimp only
  split
  · rename_i hclose
    exact .ok (hasShortIntegers_word (hasShortIntegers_behind hv hclose (by decide)))
  · rename_i hcomma
    have hmore := hasShortIntegers_skipBlanks (hasShortIntegers_behind hv hcomma (by decide))
    exact .bind (ih.elements _ hmore) fun _ hvs => .ok hvs
  · exact ends_malformed

lemma ReadShort.succ_members {fuel : Nat} (ih : ReadShort fuel) (done : Entries)
    (h : hasShortIntegers .between cs = true) : ReadsShort (Json.members (fuel + 1) cs done) := by
  unfold Json.members
  split
  · refine .bind (ends_stringBody _ h) fun name hname => ?_
    dsimp only
    split
    · rename_i hcolon
      have hbehind := hasShortIntegers_skipBlanks
        (hasShortIntegers_behind (hasShortIntegers_word hname) hcolon (by decide))
      refine .bind (ih.value _ hbehind) fun v hv => ?_
      split
      · rename_i hclose
        exact .ok (hasShortIntegers_word (hasShortIntegers_behind hv hclose (by decide)))
      · rename_i hcomma
        exact ih.members _ _
          (hasShortIntegers_skipBlanks (hasShortIntegers_behind hv hcomma (by decide)))
      · exact ends_malformed
    · exact ends_malformed
  · exact ends_malformed

theorem readShort (fuel : Nat) : ReadShort fuel := by
  induction fuel with
  | zero =>
    exact ⟨fun _ _ => ends_malformed, fun _ _ => ends_malformed, fun _ _ _ => ends_malformed⟩
  | succ fuel ih =>
    exact ⟨fun _ h => ih.succ_value h, fun _ h => ih.succ_elements h,
      fun _ done h => ih.succ_members done h⟩

/-- A text whose integers are short is the text of a value, or malformed. -/
theorem ends_document (h : hasShortIntegers .between cs = true) :
    Ends (· ≠ .tooManyDigits) (fun _ => True) (document cs) := by
  unfold document
  split
  · exact ends_malformed
  · refine .bind ((readShort _).value _ (hasShortIntegers_skipBlanks h)) fun v _ => ?_
    dsimp only
    split
    · exact .ok trivial
    · exact ends_malformed

end

end JsonSchema.Json
