import JsonSchema.Document.Yaml.Lexer
import JsonSchema.Proofs.Readers.Quoted

/-!
The spellings that JSON has in common with YAML.

YAML reads most of JSON, but not every spelling of it. Its blanks are spaces and line ends, its
exponents have a sign and stand behind a point, it has no words for numbers that are none, and a
key stands on one line with its colon, at most 1024 characters before it. A text is shared if it
keeps to these rules. The escaped halves of one character are left out too, since YAML keeps them
apart. Main statements: what is left of a shared text behind a sign, a string or a word is shared
again.
-/

namespace JsonSchema.Json

/-! ### Shared texts -/

/-- A character that YAML takes wherever JSON does, and for the same. -/
def isSharedChar (c : Char) : Bool :=
  Yaml.isAllowed c && c != '\t' && (!Yaml.isBreak c || c == '\n' || c == '\r')

/-- Blanks and the signs of JSON. -/
def isSeparator (c : Char) : Bool := isBlank c || ",:[]\x7b\x7d".toList.contains c

/-- Where a place in a text is. -/
inductive Setting where
  | between
  | word
  | string
  deriving DecidableEq

/-- The strings, words and numbers of a text, each with all that follows. -/
def starts : Setting → List Char → List (List Char)
  | _, [] => []
  | .string, '\\' :: _ :: rest => starts .string rest
  | .string, c :: rest => starts (if c = '"' then .between else .string) rest
  | setting, c :: rest =>
    if c = '"' then (c :: rest) :: starts .string rest
    else if isSeparator c then starts .between rest
    else if setting = .word then starts .word rest
    else (c :: rest) :: starts .word rest

/-- Whether the string that a text starts with is no key, or a short key with its colon on the same
line. -/
def isSharedString (cs : List Char) : Bool :=
  !hasHalves cs.tail && match stringBody cs cs.tail with
  | .error _ => true
  | .ok (_, behind) =>
    (skipBlanks behind).head? != some ':' || ((behind.takeWhile isBlank).all (· == ' ')
      && decide (cs.length ≤ (skipBlanks behind).length + Yaml.keyLimit))

/-- Whether a text starts with none of the words for numbers. -/
def isSharedWord (cs : List Char) : Bool :=
  ["NaN", "Infinity", "-Infinity"].all fun w => (word? w.toList cs).isNone

/-- Whether the number that a text starts with, its sign left out, has no exponent, or one with a
sign of its own behind a fraction. -/
def hasSharedExponent (cs : List Char) : Bool :=
  let (fraction, rest) := fractionDigits (wholeDigits cs).2
  (exponent? rest).isNone
    || (!fraction.isEmpty && rest.tail.head?.any fun c => c == '-' || c == '+')

def isSharedNumber : List Char → Bool
  | '-' :: rest => hasSharedExponent rest
  | cs => hasSharedExponent cs

def isSharedStart (cs : List Char) : Bool :=
  if cs.head? = some '"' then isSharedString cs else isSharedWord cs && isSharedNumber cs

/-- A text that keeps to the spellings of JSON that YAML has too. -/
def isShared (text : List Char) : Bool :=
  text.all isSharedChar && (starts .between text).all isSharedStart

/-! ### What is left of a shared text -/

section

variable {c : Char} {cs rest : List Char}

lemma skipBlanks_skipBlanks (cs : List Char) : skipBlanks (skipBlanks cs) = skipBlanks cs := by
  unfold skipBlanks
  induction cs with
  | nil => rfl
  | cons c cs ih =>
    by_cases hc : isBlank c = true
    · rwa [List.dropWhile_cons_of_pos hc]
    · rw [List.dropWhile_cons_of_neg hc, List.dropWhile_cons_of_neg hc]

lemma skipBlanks_cons (hc : isBlank c = false) : skipBlanks (c :: cs) = c :: cs :=
  List.dropWhile_cons_of_neg (by simp [hc])

lemma isShared_iff : isShared cs = true ↔
    (∀ c ∈ cs, isSharedChar c = true) ∧ ∀ p ∈ starts .between cs, isSharedStart p = true := by
  simp [isShared]

lemma starts_separator (hc : isSeparator c = true) (cs : List Char) :
    starts .between (c :: cs) = starts .between cs := by
  have hquote : c ≠ '"' := ne_of_true_of_false hc (by decide)
  simp [starts, hquote, hc]

/-- Behind a separator no word goes on. -/
lemma starts_word_separator (hc : isSeparator c = true) (cs : List Char) :
    starts .word (c :: cs) = starts .between cs := by
  have hquote : c ≠ '"' := ne_of_true_of_false hc (by decide)
  simp [starts, hquote, hc]

lemma starts_skipBlanks (cs : List Char) :
    starts .between (skipBlanks cs) = starts .between cs := by
  induction cs with
  | nil => rfl
  | cons c cs ih =>
    unfold skipBlanks at ih ⊢
    by_cases hc : isBlank c = true
    · rw [List.dropWhile_cons_of_pos hc, ih, starts_separator (by simp [isSeparator, hc])]
    · rw [List.dropWhile_cons_of_neg hc]

lemma isShared_separator (h : isShared (c :: cs) = true) (hc : isSeparator c = true) :
    isShared cs = true := by
  obtain ⟨hchars, hstarts⟩ := isShared_iff.1 h
  rw [starts_separator hc] at hstarts
  exact isShared_iff.2 ⟨(List.forall_mem_cons.1 hchars).2, hstarts⟩

lemma isShared_skipBlanks (h : isShared cs = true) : isShared (skipBlanks cs) = true := by
  obtain ⟨hchars, hstarts⟩ := isShared_iff.1 h
  refine isShared_iff.2 ⟨fun c hc => hchars c ((List.dropWhile_suffix isBlank).subset hc), ?_⟩
  rwa [starts_skipBlanks]

lemma starts_string_char (hquote : c ≠ '"') (hback : c ≠ '\\') :
    starts .string (c :: cs) = starts .string cs := by
  rw [starts.eq_def]
  split
  · simp_all
  · simp_all
  · simp_all
  · simp_all

/-- The digits of a code end no string. -/
lemma starts_code {a b c d : Char} {n : Nat} (h : hexCode? a b c d = some n) (cs : List Char) :
    starts .string (a :: b :: c :: d :: cs) = starts .string cs := by
  have hother := ne_of_hexCode? h
  simp only [List.forall_mem_cons, List.not_mem_nil, false_imp_iff, implies_true,
    and_true] at hother
  obtain ⟨ha, hb, hc, hd⟩ := hother
  rw [starts_string_char ha.1 ha.2, starts_string_char hb.1 hb.2, starts_string_char hc.1 hc.2,
    starts_string_char hd.1 hd.2]

/-- A string ends where its reader says. -/
lemma starts_string {body : List Point} (h : StringReads cs body rest) :
    starts .string cs = starts .between rest := by
  induction h with
  | close rest => rfl
  | char hquote hback _ _ ih => rw [starts_string_char hquote hback, ih]
  | escape _ _ ih => exact ih
  | code hcode _ ih =>
    rw [← ih]
    exact starts_code hcode _
  | @pair a b c d e f g h high low cs _ _ hhigh _ hlow _ _ ih =>
    rw [← ih]
    exact (starts_code hhigh _).trans (starts_code hlow _)

lemma isShared_string {body : List Point} (h : isShared ('"' :: cs) = true)
    (hread : StringReads cs body rest) :
    isSharedString ('"' :: cs) = true ∧ isShared rest = true := by
  obtain ⟨hchars, hstarts⟩ := isShared_iff.1 h
  have hcs : starts .between ('"' :: cs) = ('"' :: cs) :: starts .between rest := by
    rw [← starts_string hread]
    rfl
  rw [hcs] at hstarts
  obtain ⟨hfirst, hstarts⟩ := List.forall_mem_cons.1 hstarts
  refine ⟨by simpa [isSharedStart] using hfirst, isShared_iff.2 ⟨fun c hc => ?_, hstarts⟩⟩
  exact hchars c (List.mem_cons_of_mem _ (hread.mem_of_mem hc))

lemma starts_word {w : List Char} (hw : ∀ c ∈ w, isSeparator c = false ∧ c ≠ '"')
    (rest : List Char) : starts .word (w ++ rest) = starts .word rest := by
  induction w with
  | nil => rfl
  | cons c w ih =>
    obtain ⟨⟨hc, hquote⟩, hw⟩ := List.forall_mem_cons.1 hw
    simp [starts, hc, hquote, ih hw]

/-- A word goes on up to the next separator. -/
lemma starts_word_end (hrest : ∀ c ∈ rest.head?, isSeparator c = true) :
    starts .word rest = starts .between rest := by
  cases rest with
  | nil => rfl
  | cons c cs =>
    have hc := hrest c rfl
    rw [starts_word_separator hc, starts_separator hc]

/-- A word or a number keeps to the spellings of both formats. -/
lemma isShared_start (h : isShared (c :: cs) = true) (hc : isSeparator c = false)
    (hquote : c ≠ '"') : isSharedWord (c :: cs) = true ∧ isSharedNumber (c :: cs) = true := by
  have hstart := (isShared_iff.1 h).2 (c :: cs) (by simp [starts, hc, hquote])
  simpa [isSharedStart, hquote] using hstart

lemma isShared_word {w : List Char} (h : isShared (w ++ rest) = true)
    (hw : ∀ d ∈ w, isSeparator d = false ∧ d ≠ '"')
    (hrest : ∀ d ∈ rest.head?, isSeparator d = true) : isShared rest = true := by
  obtain ⟨hchars, hstarts⟩ := isShared_iff.1 h
  refine isShared_iff.2 ⟨fun d hd => hchars d (by simp [hd]), fun p hp => hstarts p ?_⟩
  cases w with
  | nil => exact hp
  | cons c w =>
    obtain ⟨⟨hc, hquote⟩, hw⟩ := List.forall_mem_cons.1 hw
    rw [← starts_word_end hrest, ← starts_word hw] at hp
    simp [starts, hc, hquote, hp]

end

end JsonSchema.Json
