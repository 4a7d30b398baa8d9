import JsonSchema.Proofs.Readers.PlainScalar
import Mathlib.Data.List.TakeWhile

/-!
Blanks and plain scalars in YAML, where the text is one of JSON.

Main statements: blanks are passed over up to the next token, and a plain scalar is the word that
stands there, with the blanks behind it passed too.
-/

namespace JsonSchema.Yaml

/-! ### Blanks -/

/-- The blanks that both formats have. -/
def IsBlanks (bs : List Char) : Prop := ∀ b ∈ bs, b = ' ' ∨ b = '\n' ∨ b = '\r'

/-- A character that a token of JSON starts with. -/
def startsToken (c : Char) : Bool := c.isAlphanum || "-,:[]\x7b\x7d\"".toList.contains c

/-- What stands behind blanks: nothing, or a token. -/
def IsBehindBlanks (cs : List Char) : Prop := ∀ c ∈ cs.head?, startsToken c = true

lemma IsBlanks.tail {b : Char} {bs : List Char} (h : IsBlanks (b :: bs)) : IsBlanks bs :=
  (List.forall_mem_cons.1 h).2

lemma isBreak_of_startsToken {c : Char} (h : startsToken c = true) : isBreak c = false := by
  rw [← Bool.not_eq_true]
  intro hbreak
  simp only [isBreak, Bool.or_eq_true, beq_iff_eq] at hbreak
  rcases hbreak with ((((rfl | rfl) | rfl) | rfl) | rfl) <;> exact absurd h (by decide)

/-- The blanks before a token are those of both formats. -/
lemma exists_blanks {cs : List Char} (h : Json.isShared cs = true) :
    ∃ bs, IsBlanks bs ∧ cs = bs ++ Json.skipBlanks cs := by
  refine ⟨cs.takeWhile Json.isBlank, fun b hb => ?_, List.takeWhile_append_dropWhile.symm⟩
  have hblank : Json.isBlank b = true := List.all_eq_true.1 List.all_takeWhile b hb
  have hshared := (Json.isShared_iff.1 h).1 b ((List.takeWhile_sublist _).subset hb)
  simp only [Json.isBlank, Bool.or_eq_true, beq_iff_eq] at hblank
  rcases hblank with ((rfl | rfl) | rfl) | rfl
  · exact .inl rfl
  · exact absurd hshared (by decide)
  · exact .inr (.inl rfl)
  · exact .inr (.inr rfl)

section

variable {c : Cursor} {b : Char} {bs more : List Char}

lemma isAt_eq_false {ch : Char} (h : ∀ x ∈ c.rest.head?, x ≠ ch) : c.isAt ch = false := by
  rw [Cursor.isAt, beq_eq_false_iff_ne]
  intro hch
  exact h ch hch rfl

lemma head?_append_blanks (hbs : IsBlanks bs) (hmore : IsBehindBlanks more) {ch : Char}
    (hch : ch ∈ (bs ++ more).head?) :
    ch = ' ' ∨ ch = '\n' ∨ ch = '\r' ∨ startsToken ch = true := by
  cases bs with
  | nil => exact .inr (.inr (.inr (hmore ch hch)))
  | cons b bs =>
    obtain rfl := Option.some.inj hch
    rcases hbs b List.mem_cons_self with h | h | h <;> simp [h]

/-- Behind the end of a line further blanks stand, or a token. -/
lemma lineBreak?_blank (hb : b = '\n' ∨ b = '\r') (hbs : IsBlanks bs) (hmore : IsBehindBlanks more)
    (h : c.rest = b :: (bs ++ more)) : ∃ bs' c', c.lineBreak? = some ('\n', c') ∧
      c'.rest = bs' ++ more ∧ IsBlanks bs' ∧ bs'.length ≤ bs.length := by
  by_cases htwo : b = '\r' ∧ bs.head? = some '\n'
  · obtain ⟨rfl, hhead⟩ := htwo
    obtain ⟨bs', rfl⟩ : ∃ bs', bs = '\n' :: bs' := by
      cases bs with
      | nil => cases hhead
      | cons d bs' => exact ⟨bs', by rw [Option.some.inj hhead]⟩
    refine ⟨bs', c.skip 2, ?_, ?_, hbs.tail, by simp⟩
    · simp only [Cursor.lineBreak?, h, List.cons_append]
    · exact Cursor.next_rest (Cursor.next_rest h)
  · refine ⟨bs, c.next, ?_, Cursor.next_rest h, hbs, le_rfl⟩
    have hbreak : isBreak b = true := by rcases hb with rfl | rfl <;> decide
    have hlong : (b == '\u2028' || b == '\u2029') = false := by rcases hb with rfl | rfl <;> decide
    simp only [Cursor.lineBreak?, h]
    split
    · rename_i heq
      obtain ⟨rfl, hrest⟩ := List.cons.inj heq
      have hhead : (bs ++ more).head? = some '\n' := by rw [hrest]; rfl
      cases bs with
      | nil => exact absurd (hmore _ hhead) (by decide)
      | cons d bs => exact absurd ⟨rfl, hhead⟩ htwo
    · rename_i heq
      cases heq
      rw [hlong, hbreak]
      rfl
    · rename_i heq
      cases heq

lemma lineBreak?_none (hmore : IsBehindBlanks more) (h : c.rest = more) : c.lineBreak? = none := by
  cases more with
  | nil => simp [Cursor.lineBreak?, h]
  | cons ch cs => exact Cursor.lineBreak?_cons h (isBreak_of_startsToken (hmore ch rfl))

/-- Spaces are passed over up to the end of the line or the next token. -/
lemma exists_skipSpaces (hbs : IsBlanks bs) (hmore : IsBehindBlanks more)
    (h : c.rest = bs ++ more) : Cursor.Along c c.skipSpaces ∧
    ∃ bs', c.skipSpaces.rest = bs' ++ more ∧ IsBlanks bs' ∧ bs'.length ≤ bs.length ∧
      (∀ b ∈ bs'.head?, b = '\n' ∨ b = '\r') ∧ ((∀ b ∈ bs, b = ' ') → bs' = []) := by
  have hdrop : (bs ++ more).dropWhile (· == ' ') = bs.dropWhile (· == ' ') ++ more := by
    have hmore' : more.dropWhile (· == ' ') = more := by
      cases more with
      | nil => rfl
      | cons ch cs =>
        have hne : ch ≠ ' ' := ne_of_true_of_false (hmore ch rfl) (by decide)
        exact List.dropWhile_cons_of_neg (by simpa using hne)
    rw [List.dropWhile_append, hmore']
    split
    · rename_i hnil
      rw [List.isEmpty_iff.1 hnil, List.nil_append]
    · rfl
  refine ⟨?_, bs.dropWhile (· == ' '), ?_, ?_, ?_, ?_, ?_⟩
  · refine (Cursor.along_skip (fun ch hch => ?_) c
      (List.takeWhile_append_dropWhile (p := (· == ' '))).symm).2
    have hspace := List.all_eq_true.1 List.all_takeWhile ch hch
    rw [eq_of_beq hspace]
    decide
  · rw [Cursor.skipSpaces, Cursor.skipWhile_rest, h, hdrop]
  · exact fun b hb => hbs b ((List.dropWhile_sublist _).subset hb)
  · exact (List.dropWhile_sublist _).length_le
  · intro b hb
    have hnot := List.head?_dropWhile_not (· == ' ') bs
    rw [hb] at hnot
    rcases hbs b ((List.dropWhile_sublist _).subset (List.mem_of_mem_head? hb)) with rfl | h | h
    · cases hnot
    · exact .inl h
    · exact .inr h
  · intro hall
    rw [List.dropWhile_eq_nil_iff]
    simpa using hall

lemma skipComment_eq (h : ∀ x ∈ c.rest.head?, x ≠ '#') : c.skipComment = c := by
  rw [Cursor.skipComment, isAt_eq_false h, if_neg Bool.false_ne_true]

end

/-- Blanks before a token are passed over. -/
theorem skipToToken_blanks {more : List Char} (hmore : IsBehindBlanks more) (fuel : Nat) :
    ∀ (bs : List Char) (l : Lexer), IsBlanks bs → l.cursor.rest = bs ++ more → bs.length < fuel →
    ∃ c allowed, Lexer.skipToToken fuel l = { l with cursor := c, keyAllowed := allowed } ∧
      c.rest = more ∧ (l.isInFlow = true → allowed = l.keyAllowed) ∧
      ((∀ b ∈ bs, b = ' ') → Cursor.Along l.cursor c) := by
  induction fuel with
  | zero => exact fun _ _ _ _ h => absurd h (Nat.not_lt_zero _)
  | succ fuel ih =>
    intro bs l hbs h hfuel
    have hmark : l.cursor.isAt '\ufeff' = false := isAt_eq_false fun ch hch => by
      rw [h] at hch
      rcases head?_append_blanks hbs hmore hch with rfl | rfl | rfl | hstart
      · decide
      · decide
      · decide
      · exact ne_of_true_of_false hstart (by decide)
    obtain ⟨halong, bs', hrest, hbs', hlength, hhead, hall⟩ := exists_skipSpaces hbs hmore h
    have hcomment : l.cursor.skipSpaces.skipComment = l.cursor.skipSpaces :=
      skipComment_eq fun ch hch => by
        rw [hrest] at hch
        rcases head?_append_blanks hbs' hmore hch with rfl | rfl | rfl | hstart
        · decide
        · decide
        · decide
        · exact ne_of_true_of_false hstart (by decide)
    unfold Lexer.skipToToken
    simp only [hmark, Bool.and_false, Bool.false_eq_true, if_false, hcomment]
    cases bs' with
    | nil =>
      rw [lineBreak?_none hmore hrest]
      exact ⟨_, l.keyAllowed, rfl, hrest, fun _ => rfl, fun _ => halong⟩
    | cons b bs' =>
      obtain ⟨bs'', c', hbreak, hrest', hbs'', hlength'⟩ :=
        lineBreak?_blank (hhead b rfl) hbs'.tail hmore hrest
      rw [hbreak]
      obtain ⟨c, allowed, hskip, hrest, hflow, -⟩ := ih bs''
        { l.at_ c' with keyAllowed := l.keyAllowed || !l.isInFlow } hbs'' hrest'
        (by simp only [List.length_cons] at hlength; omega)
      refine ⟨c, allowed, hskip, hrest, fun hin => ?_, fun hspaces => nomatch hall hspaces⟩
      rw [hflow hin]
      simp [hin]

/-! ### Plain scalars -/

section

variable {c : Cursor} {bs more : List Char}

/-- What stands behind a word and the blanks after it: a sign, in brackets, or nothing. -/
def IsBehindWord (inFlow : Bool) (cs : List Char) : Prop :=
  ∀ c ∈ cs.head?, inFlow = true ∧ (c = ',' ∨ c = ']' ∨ c = '\x7d')

lemma IsBehindWord.isBehindBlanks {inFlow : Bool} {cs : List Char} (h : IsBehindWord inFlow cs) :
    IsBehindBlanks cs := by
  intro c hc
  rcases (h c hc).2 with rfl | rfl | rfl <;> decide

/-- No document starts or ends before a sign. -/
lemma isSeparator_eq_false {inFlow : Bool} (hbs : IsBlanks bs) (hmore : IsBehindWord inFlow more)
    (h : c.rest = bs ++ more) : c.isSeparator = false := by
  have hhead (ch : Char) (hch : ch ∈ c.rest.head?) : ch ≠ '-' ∧ ch ≠ '.' := by
    rw [h] at hch
    cases bs with
    | nil => rcases (hmore ch hch).2 with rfl | rfl | rfl <;> decide
    | cons b bs =>
      obtain rfl := Option.some.inj hch
      rcases hbs b List.mem_cons_self with rfl | rfl | rfl <;> decide
  have hmarker (mark : Char) (hmark : mark = '-' ∨ mark = '.') : c.isMarker mark = false := by
    unfold Cursor.isMarker
    split
    · rename_i x y z rest heq
      have hx := hhead x (by rw [heq]; rfl)
      rcases hmark with rfl | rfl
      · simp [beq_false_of_ne hx.1]
      · simp [beq_false_of_ne hx.2]
    · rfl
  rw [Cursor.isSeparator, hmarker '-' (.inl rfl), hmarker '.' (.inr rfl), Bool.or_self]

lemma plainBreaks_blanks {inFlow : Bool} (hmore : IsBehindWord inFlow more) (fuel : Nat) :
    ∀ (bs : List Char) (c : Cursor), IsBlanks bs → c.rest = bs ++ more → bs.length < fuel →
    ∃ breaks c', plainBreaks fuel c = (some breaks, c') ∧ c'.rest = more := by
  induction fuel with
  | zero => exact fun _ _ _ _ h => absurd h (Nat.not_lt_zero _)
  | succ fuel ih =>
    intro bs c hbs h hfuel
    unfold plainBreaks
    cases bs with
    | nil =>
      have hspace : c.isAt ' ' = false := isAt_eq_false fun ch hch => by
        rw [h] at hch
        exact ne_of_true_of_false (hmore.isBehindBlanks ch hch) (by decide)
      rw [hspace, if_neg Bool.false_ne_true, lineBreak?_none hmore.isBehindBlanks h]
      exact ⟨_, _, rfl, h⟩
    | cons b bs =>
      simp only [List.length_cons] at hfuel
      rcases hbs b List.mem_cons_self with rfl | hb
      · have hspace : c.isAt ' ' = true := by simp [Cursor.isAt, Cursor.peek?, h]
        rw [if_pos hspace]
        exact ih bs c.next hbs.tail (Cursor.next_rest h) (by omega)
      · have hspace : c.isAt ' ' = false := isAt_eq_false fun ch hch => by
          rw [h] at hch
          obtain rfl := Option.some.inj hch
          rcases hb with rfl | rfl <;> decide
        obtain ⟨bs', c', hbreak, hrest, hbs', hlength⟩ :=
          lineBreak?_blank hb hbs.tail hmore.isBehindBlanks h
        obtain ⟨breaks, c'', hmany, hrest'⟩ := ih bs' c' hbs' hrest (by omega)
        rw [hspace, if_neg Bool.false_ne_true, hbreak]
        simp only [isSeparator_eq_false hbs' hmore hrest, Bool.false_eq_true, if_false, hmany]
        exact ⟨_, _, rfl, hrest'⟩

/-- Blanks behind a word are passed over. -/
lemma plainBlanks_def (c : Cursor) : plainBlanks c =
    match c.skipSpaces.lineBreak? with
    | none => ((c.takeWhile (· == ' ')).1, false, c.skipSpaces)
    | some (br, c) =>
      if c.isSeparator then ([], true, c)
      else
        match plainBreaks (c.rest.length + 1) c with
        | (some breaks, c) => (folded br breaks, true, c)
        | (none, c) => ([], true, c) := rfl

lemma plainBlanks_blanks {inFlow : Bool} (hbs : IsBlanks bs) (hmore : IsBehindWord inFlow more)
    (h : c.rest = bs ++ more) :
    ∃ text crossed c', plainBlanks c = (text, crossed, c') ∧ c'.rest = more := by
  obtain ⟨-, bs', hrest, hbs', -, hhead, -⟩ := exists_skipSpaces hbs hmore.isBehindBlanks h
  rw [plainBlanks_def]
  cases bs' with
  | nil =>
    rw [lineBreak?_none hmore.isBehindBlanks hrest]
    exact ⟨_, _, _, rfl, hrest⟩
  | cons b bs' =>
    obtain ⟨bs'', c', hbreak, hrest', hbs'', -⟩ :=
      lineBreak?_blank (hhead b rfl) hbs'.tail hmore.isBehindBlanks hrest
    obtain ⟨breaks, c'', hmany, hend⟩ := plainBreaks_blanks hmore (c'.rest.length + 1) bs'' c' hbs''
      hrest' (by rw [hrest', List.length_append]; omega)
    rw [hbreak]
    simp only [isSeparator_eq_false hbs'' hmore hrest', Bool.false_eq_true, if_false, hmany]
    exact ⟨_, _, _, rfl, hend⟩

lemma endsPlain_of_isWordChar (inFlow : Bool) {ch : Char} (h : isWordChar ch = true)
    (after : Option Char) : endsPlain inFlow ch after = false := by
  have hne {d : Char} (hd : isWordChar d = false) : ch ≠ d := ne_of_true_of_false h hd
  have hgap : isGap (some ch) = false := by
    simp only [isGap, isBreak, Bool.or_eq_false_iff, beq_eq_false_iff_ne]
    exact ⟨⟨hne (by decide), hne (by decide)⟩, ⟨⟨⟨hne (by decide), hne (by decide)⟩,
      hne (by decide)⟩, hne (by decide)⟩, hne (by decide)⟩
  have hsign : [',', '?', '[', ']', '\x7b', '\x7d'].contains ch = false :=
    contains_eq_false_of_all h (by decide)
  rw [endsPlain, hgap, hsign, beq_false_of_ne (hne (d := ':') (by decide))]
  simp

/-- A word goes on up to the blanks behind it, or to the next sign. -/
lemma plainLength_eq {inFlow : Bool} {w : List Char} (hw : ∀ c ∈ w, isWordChar c = true)
    (hbs : IsBlanks bs) (hmore : IsBehindWord inFlow more) :
    plainLength inFlow (w ++ (bs ++ more)) = w.length := by
  induction w with
  | nil =>
    have hend : ∀ ch ∈ (bs ++ more).head?, ∀ after, endsPlain inFlow ch after = true := by
      intro ch hch after
      cases bs with
      | nil =>
        obtain ⟨rfl, rfl | rfl | rfl⟩ := hmore ch hch <;> simp [endsPlain]
      | cons b bs =>
        obtain rfl := Option.some.inj hch
        rcases hbs b List.mem_cons_self with rfl | rfl | rfl <;> rfl
    rw [List.nil_append]
    cases hcs : bs ++ more with
    | nil => rfl
    | cons ch cs =>
      rw [hcs] at hend
      rw [plainLength, if_pos (hend ch rfl _)]
      rfl
  | cons ch w ih =>
    obtain ⟨hch, hw⟩ := List.forall_mem_cons.1 hw
    rw [List.cons_append, plainLength, endsPlain_of_isWordChar inFlow hch,
      if_neg Bool.false_ne_true, ih hw, List.length_cons]

/-- A plain scalar is the word that stands there; the blanks behind it are passed too. -/
theorem plainText_word {inFlow : Bool} {w : List Char} {v : Value} (hw : PlainWord w v)
    (hbs : IsBlanks bs) (hmore : IsBehindWord inFlow more) (h : c.rest = w ++ (bs ++ more))
    (indent : Int) (fuel : Nat) : ∃ crossed c',
    plainText inFlow indent (fuel + 1) [] false c = ⟨w, crossed, c'⟩ ∧ c'.rest = more := by
  obtain ⟨ch, w', rfl⟩ : ∃ ch w', w = ch :: w' := by
    cases hw.start <;> exact ⟨_, _, rfl⟩
  have hnumber : c.isAt '#' = false := isAt_eq_false fun x hx => by
    rw [h] at hx
    obtain rfl := Option.some.inj hx
    exact ne_of_true_of_false (hw.chars _ List.mem_cons_self) (by decide)
  have hlength := plainLength_eq hw.chars hbs hmore
  have hskip : (c.skip (ch :: w').length).rest = bs ++ more := by
    rw [Cursor.skip_rest, h, List.drop_left]
  obtain ⟨text, crossed, c', hblanks, hrest⟩ := plainBlanks_blanks hbs hmore hskip
  have hempty (fuel : Nat) (text : List Char) :
      plainText inFlow indent fuel text crossed c' = ⟨[], crossed, c'⟩ := by
    have hzero : plainLength inFlow c'.rest = 0 := by
      rw [hrest]
      show plainLength inFlow ([] ++ ([] ++ more)) = ([] : List Char).length
      exact plainLength_eq nofun nofun hmore
    cases fuel with
    | zero => rfl
    | succ fuel =>
      simp only [plainText, hzero]
      rw [if_pos (by simp)]
  refine ⟨crossed, c', ?_, hrest⟩
  unfold plainText
  simp only [h, hlength, hnumber, List.take_left, hblanks, hempty]
  rw [if_neg (by simp)]
  split
  · rfl
  · rw [List.append_nil, List.nil_append]

end

end JsonSchema.Yaml
