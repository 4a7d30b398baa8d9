import JsonSchema.Document.Yaml.Scalar
import JsonSchema.Proofs.Answer
import Mathlib.Tactic.Common

/-!
Strings in JSON and in double quotes in YAML.

`StringReads` lists the forms that the code points of a JSON string take: a character as it is,
escaped by a letter, or by the codes of its halves, and any one of them escaped by its code. Main
statement: what is a string in JSON, with no line end of YAML in it and no character in two escapes,
is the same text in double quotes in YAML, up to the same place.
-/

namespace JsonSchema

/-! ### Characters -/

section

variable {p : Char → Bool} {c : Char} (hc : p c = true)

include hc

/-- What holds of one character and not of another tells them apart. -/
lemma ne_of_true_of_false {d : Char} (hd : p d = false) : c ≠ d := by
  rintro rfl
  rw [hc] at hd
  cases hd

lemma contains_eq_false_of_all {cs : List Char} (hcs : cs.all (fun d => !p d) = true) :
    cs.contains c = false := by
  rw [← Bool.not_eq_true, List.contains_iff_mem]
  intro hm
  simpa [hc] using List.all_eq_true.1 hcs c hm

end

/-! ### Strings in JSON -/

namespace Json

/-- A text that starts inside of a string, the code points up to the closing quote, and the text
behind the quote. -/
inductive StringReads : (cs : List Char) → (body : List Point) → (rest : List Char) → Prop
  | close (rest : List Char) : StringReads ('"' :: rest) [] rest
  | char {c : Char} {cs rest : List Char} {body : List Point} (hquote : c ≠ '"') (hback : c ≠ '\\')
      (hc : 32 ≤ c.toNat) (hmore : StringReads cs body rest) :
      StringReads (c :: cs) (.char c :: body) rest
  | escape {c e : Char} {cs rest : List Char} {body : List Point} (hc : simpleEscape? c = some e)
      (hmore : StringReads cs body rest) : StringReads ('\\' :: c :: cs) (.char e :: body) rest
  | code {a b c d : Char} {n : Nat} {cs rest : List Char} {body : List Point}
      (hcode : hexCode? a b c d = some n) (hmore : StringReads cs body rest) :
      StringReads ('\\' :: 'u' :: a :: b :: c :: d :: cs) (.ofCode n :: body) rest
  | pair {a b c d e f g h : Char} {high low : Nat} {cs rest : List Char} {body : List Point}
      (hhigh : hexCode? a b c d = some high) (isHigh : isHighSurrogate high = true)
      (hlow : hexCode? e f g h = some low) (isLow : isLowSurrogate low = true)
      (hmore : StringReads cs body rest) :
      StringReads ('\\' :: 'u' :: a :: b :: c :: d :: '\\' :: 'u' :: e :: f :: g :: h :: cs)
        (.char (joinSurrogates high low) :: body) rest

namespace StringReads

variable {cs rest : List Char} {body : List Point}

/-- What stands behind a string is left of the text. -/
lemma mem_of_mem (h : StringReads cs body rest) {c : Char} (hc : c ∈ rest) : c ∈ cs := by
  induction h with
  | close => exact List.mem_cons_of_mem _ hc
  | char _ _ _ _ ih | escape _ _ ih | code _ _ ih | pair _ _ _ _ _ ih => simp [ih hc]

lemma length_le (h : StringReads cs body rest) : rest.length ≤ cs.length := by
  induction h with
  | close => exact Nat.le_succ _
  | char _ _ _ _ ih | escape _ _ ih | code _ _ ih | pair _ _ _ _ _ ih =>
    simp only [List.length_cons]
    omega

end StringReads

theorem stringReads_of_stringBody {start cs rest : List Char} {body : List Point}
    (h : stringBody start cs = .ok (body, rest)) : StringReads cs body rest := by
  fun_induction stringBody start cs generalizing body with
  | case2 rest' =>
    cases h
    exact .close _
  | case3 a b c d high e f g h' next more hhigh isHigh low hlow isLow ih =>
    obtain ⟨_, hr, heq⟩ := except_map_eq_ok.1 h
    cases heq
    exact .pair hhigh isHigh hlow isLow (ih hr)
  | case4 a b c d high e f g h' next more hhigh isHigh low hlow isLow ih =>
    obtain ⟨_, hr, heq⟩ := except_map_eq_ok.1 h
    cases heq
    exact .code hhigh (ih hr)
  | case6 a b c d high e f g h' next more hhigh isHigh ih =>
    obtain ⟨_, hr, heq⟩ := except_map_eq_ok.1 h
    cases heq
    exact .code hhigh (ih hr)
  | case7 a b c d code next more hnot hcode ih =>
    obtain ⟨_, hr, heq⟩ := except_map_eq_ok.1 h
    cases heq
    exact .code hcode (ih hr)
  | case10 c more _ _ e he ih =>
    obtain ⟨_, hr, heq⟩ := except_map_eq_ok.1 h
    cases heq
    exact .escape he (ih hr)
  | case14 c more hquote _ _ _ hback hc ih =>
    obtain ⟨_, hr, heq⟩ := except_map_eq_ok.1 h
    cases heq
    exact .char hquote hback (Nat.le_of_not_lt hc) (ih hr)
  | _ => cases h

/-! ### Codes -/

lemma hexValue?_eq_some {c : Char} {n : Nat} (h : hexValue? c = some n) :
    Yaml.isHexDigit c = true ∧ n < 16 := by
  unfold hexValue? at h
  unfold Yaml.isHexDigit
  split_ifs at h with hdigit hlower hupper <;> obtain rfl := Option.some.inj h
  · have hmost : c.toNat ≤ 57 := (Char.isDigit_iff_toNat.1 hdigit).2
    exact ⟨by simp [hdigit], by omega⟩
  · have hmost : c.toNat ≤ 102 := hlower.2
    exact ⟨by simp [hlower], by omega⟩
  · have hmost : c.toNat ≤ 70 := hupper.2
    exact ⟨by simp [hupper], by omega⟩

lemma exists_hexValues {a b c d : Char} {n : Nat} (h : hexCode? a b c d = some n) :
    ∃ i j k l, hexValue? a = some i ∧ hexValue? b = some j ∧ hexValue? c = some k ∧
      hexValue? d = some l ∧ n = (i * 16 + j) * 256 + (k * 16 + l) := by
  simp only [hexCode?, Option.bind_eq_bind, Option.bind_eq_some_iff, Option.pure_def,
    Option.some.injEq] at h
  obtain ⟨i, hi, j, hj, k, hk, l, hl, rfl⟩ := h
  exact ⟨i, j, k, l, hi, hj, hk, hl, rfl⟩

/-- Four digits and their code, as both formats read them. -/
lemma hexCode?_eq_some {a b c d : Char} {n : Nat} (h : hexCode? a b c d = some n) :
    [a, b, c, d].all Yaml.isHexDigit = true ∧ Yaml.hexNumber [a, b, c, d] = n ∧ n < 65536 := by
  obtain ⟨i, j, k, l, hi, hj, hk, hl, rfl⟩ := exists_hexValues h
  obtain ⟨ha, hi'⟩ := hexValue?_eq_some hi
  obtain ⟨hb, hj'⟩ := hexValue?_eq_some hj
  obtain ⟨hc, hk'⟩ := hexValue?_eq_some hk
  obtain ⟨hd, hl'⟩ := hexValue?_eq_some hl
  refine ⟨by simp [ha, hb, hc, hd], ?_, by omega⟩
  simp only [Yaml.hexNumber, List.foldl, hi, hj, hk, hl, Option.getD_some]
  omega

/-! ### Characters in two escapes -/

/-- Whether a code and the escape behind it are the halves of one character. -/
def opensHalves : List Char → Bool
  | a :: b :: c :: d :: '\\' :: 'u' :: e :: f :: g :: h :: _ =>
    (hexCode? a b c d).any isHighSurrogate && (hexCode? e f g h).any isLowSurrogate
  | _ => false

/-- Whether a string has the halves of a character in two escapes. -/
def hasHalves : List Char → Bool
  | [] => false
  | '"' :: _ => false
  | '\\' :: c :: rest => (c == 'u' && opensHalves rest) || hasHalves rest
  | _ :: rest => hasHalves rest

lemma hasHalves_char {c : Char} {cs : List Char} (hquote : c ≠ '"') (hback : c ≠ '\\') :
    hasHalves (c :: cs) = hasHalves cs := by
  rw [hasHalves.eq_def]
  split <;> simp_all

/-- The digits of a code are neither a quote nor a backslash. -/
lemma ne_of_hexCode? {a b c d : Char} {n : Nat} (h : hexCode? a b c d = some n) :
    ∀ x ∈ [a, b, c, d], x ≠ '"' ∧ x ≠ '\\' := by
  intro x hx
  have hdigit := List.all_eq_true.1 (hexCode?_eq_some h).1 x hx
  exact ⟨ne_of_true_of_false hdigit (by decide), ne_of_true_of_false hdigit (by decide)⟩

lemma hasHalves_code {a b c d : Char} {n : Nat} {cs : List Char} (h : hexCode? a b c d = some n) :
    hasHalves (a :: b :: c :: d :: cs) = hasHalves cs := by
  have hother := ne_of_hexCode? h
  simp only [List.forall_mem_cons, List.not_mem_nil, false_imp_iff, implies_true,
    and_true] at hother
  obtain ⟨ha, hb, hc, hd⟩ := hother
  rw [hasHalves_char ha.1 ha.2, hasHalves_char hb.1 hb.2, hasHalves_char hc.1 hc.2,
    hasHalves_char hd.1 hd.2]

end Json

/-! ### Places on one line -/

namespace Yaml

namespace Cursor

/-- A place is on the same line as another, and behind it by what is left there and no more here. -/
structure Along (c c' : Cursor) : Prop where
  line : c'.line = c.line
  index : c'.index + c'.rest.length = c.index + c.rest.length

lemma Along.refl (c : Cursor) : Along c c := ⟨rfl, rfl⟩

lemma Along.trans {c c' c'' : Cursor} (h : Along c c') (h' : Along c' c'') : Along c c'' :=
  ⟨h'.line.trans h.line, h'.index.trans h.index⟩

lemma next_rest {c : Cursor} {ch : Char} {cs : List Char} (h : c.rest = ch :: cs) :
    c.next.rest = cs := by
  simp only [next, h]
  split_ifs <;> rfl

lemma along_next {c : Cursor} {ch : Char} {cs : List Char} (h : c.rest = ch :: cs)
    (hch : isBreak ch = false) : Along c c.next := by
  have hcr : (ch == '\r') = false := by
    refine beq_false_of_ne ?_
    rintro rfl
    cases hch
  constructor
  · simp only [next, h, hcr, hch, Bool.false_and, Bool.false_eq_true, if_false]
    split_ifs <;> rfl
  · rw [next_rest h, h]
    simp only [next, h, hcr, hch, Bool.false_and, Bool.false_eq_true, if_false]
    split_ifs <;> simp only [List.length_cons] <;> omega

/-- Passing characters that end no line. -/
lemma along_skip {w cs : List Char} (hw : ∀ ch ∈ w, isBreak ch = false) (c : Cursor)
    (h : c.rest = w ++ cs) : (c.skip w.length).rest = cs ∧ Along c (c.skip w.length) := by
  induction w generalizing c with
  | nil => exact ⟨h, .refl c⟩
  | cons ch w ih =>
    obtain ⟨hch, hw⟩ := List.forall_mem_cons.1 hw
    obtain ⟨hrest, halong⟩ := ih hw c.next (next_rest h)
    exact ⟨hrest, (along_next h hch).trans halong⟩

lemma skip_rest (n : Nat) (c : Cursor) : (c.skip n).rest = c.rest.drop n := by
  induction n generalizing c with
  | zero => rfl
  | succ n ih =>
    rw [skip, ih]
    cases h : c.rest with
    | nil => simp [next, h]
    | cons ch cs => rw [next_rest h, List.drop_succ_cons]

lemma skipWhile_rest (test : Char → Bool) (c : Cursor) :
    (c.skipWhile test).rest = c.rest.dropWhile test := by
  calc (c.skipWhile test).rest
      = c.rest.drop (c.rest.takeWhile test).length := skip_rest _ c
    _ = (c.rest.takeWhile test ++ c.rest.dropWhile test).drop (c.rest.takeWhile test).length := by
        rw [List.takeWhile_append_dropWhile]
    _ = c.rest.dropWhile test := List.drop_left ..

variable {test : Char → Bool} {c : Cursor} {ch : Char} {cs : List Char}

lemma takeWhile_cons (h : c.rest = ch :: cs) (hch : test ch = true) :
    c.takeWhile test = (ch :: (c.next.takeWhile test).1, c.next.skipWhile test) := by
  simp [takeWhile, skipWhile, h, hch, next_rest h, skip]

lemma takeWhile_nil (h : c.rest = ch :: cs) (hch : test ch = false) :
    c.takeWhile test = ([], c) := by
  simp [takeWhile, h, hch, skip]

end Cursor

/-! ### Double quotes -/

section

variable {c : Cursor} {ch : Char} {cs : List Char} {fuel : Nat}

lemma Cursor.peek?_cons (h : c.rest = ch :: cs) : c.peek? = some ch := by
  simp [Cursor.peek?, h]

lemma Cursor.lineBreak?_cons (h : c.rest = ch :: cs) (hch : isBreak ch = false) :
    c.lineBreak? = none := by
  simp only [Cursor.lineBreak?, h]
  split
  · rename_i hcons
    cases hcons
    exact absurd hch (by decide)
  · rename_i hcons
    cases hcons
    have hlong : (ch == '\u2028' || ch == '\u2029') = false := by
      rw [Bool.or_eq_false_iff]
      constructor <;>
      · refine beq_false_of_ne ?_
        rintro rfl
        exact absurd hch (by decide)
    rw [hlong, hch]
    rfl
  · rfl

lemma quotedText_close (h : c.rest = '"' :: cs) :
    quotedText '"' (fuel + 1) c = .ok ([], c.next) := by
  simp [quotedText, Cursor.peek?_cons h]

/-- The first part of what stands before the closing quote: an escape, blanks or one character. -/
def quotedPart (ch : Char) (c : Cursor) : ScannedPoints :=
  if ch == '\\' then escaped c.next
  else if ch == ' ' || ch == '\t' || isBreak ch then
    (quotedBlanks c).map fun r => (Text.plain r.1, r.2)
  else .ok ([.char ch], c.next)

/-- What stands before the closing quote is read part by part. -/
lemma quotedText_part {text : List Point} {c' : Cursor} (h : c.rest = ch :: cs) (hquote : ch ≠ '"')
    (hpart : quotedPart ch c = .ok (text, c')) :
    quotedText '"' (fuel + 1) c = (quotedText '"' fuel c').map fun r => (text ++ r.1, r.2) := by
  rw [quotedText, Cursor.peek?_cons h]
  simp only [beq_false_of_ne hquote, Bool.false_eq_true, if_false, Bool.and_true, beq_self_eq_true]
  have hread (x : ScannedPoints) (hx : x = .ok (text, c')) : (x >>= fun p =>
      quotedText '"' fuel p.2 >>= fun r => pure (p.1 ++ r.1, r.2)) =
        (quotedText '"' fuel c').map fun r => (text ++ r.1, r.2) := by
    rw [hx]
    show (quotedText '"' fuel c' >>= _) = _
    cases quotedText '"' fuel c' <;> rfl
  unfold quotedPart at hpart
  split_ifs at hpart ⊢ with hback hblank <;> exact hread _ hpart

lemma quotedPart_char (hback : ch ≠ '\\') (hblank : ¬(ch == ' ' || ch == '\t') = true)
    (hbreak : isBreak ch = false) : quotedPart ch c = .ok ([.char ch], c.next) := by
  rw [quotedPart, beq_false_of_ne hback, hbreak, Bool.or_false, if_neg Bool.false_ne_true,
    if_neg hblank]

lemma quotedPart_blank (hblank : (ch == ' ' || ch == '\t') = true) :
    quotedPart ch c = (quotedBlanks c).map fun r => (Text.plain r.1, r.2) := by
  rw [quotedPart, beq_false_of_ne, hblank, Bool.true_or, if_neg Bool.false_ne_true, if_pos rfl]
  rintro rfl
  cases hblank

/-- A blank of a quoted scalar. -/
def isQuotedBlank (ch : Char) : Bool := ch == ' ' || ch == '\t'

lemma isBreak_of_isQuotedBlank (h : isQuotedBlank ch = true) : isBreak ch = false := by
  simp only [isQuotedBlank, Bool.or_eq_true, beq_iff_eq] at h
  obtain rfl | rfl := h <;> rfl

/-- Blanks that end before the line does stay as they are. -/
lemma quotedBlanks_def (c : Cursor) : quotedBlanks c =
    match (c.skipWhile isQuotedBlank).peek?, (c.skipWhile isQuotedBlank).lineBreak? with
    | none, _ => .error .malformed
    | some _, some (br, c) =>
      (quotedBreaks (c.rest.length + 1) c).map fun r => (folded br r.1, r.2)
    | some _, none => .ok (c.takeWhile isQuotedBlank) := rfl

lemma quotedBlanks_eq (h : (c.skipWhile isQuotedBlank).rest = ch :: cs) (hch : isBreak ch = false) :
    quotedBlanks c = .ok (c.takeWhile isQuotedBlank) := by
  rw [quotedBlanks_def, Cursor.peek?_cons h, Cursor.lineBreak?_cons h hch]

/-- Blanks inside of a line are read in one part. -/
lemma quotedText_blanks {x : Char} {more : List Char} (h : c.rest = ch :: cs)
    (hblank : isQuotedBlank ch = true) (hend : (c.skipWhile isQuotedBlank).rest = x :: more)
    (hx : isBreak x = false) :
    quotedText '"' (fuel + 1) c = (quotedText '"' fuel (c.skipWhile isQuotedBlank)).map fun r =>
      (Text.plain (c.takeWhile isQuotedBlank).1 ++ r.1, r.2) := by
  refine quotedText_part h ?_ ?_
  · rintro rfl
    cases hblank
  · rw [quotedPart_blank hblank, quotedBlanks_eq hend hx]
    rfl

/-! ### Escapes -/

lemma controlEscape?_of_simpleEscape? {e x : Char} (h : Json.simpleEscape? e = some x) :
    controlEscape? e = some x ∧ isBreak e = false := by
  unfold Json.simpleEscape? at h
  split at h <;> cases h
  all_goals exact ⟨rfl, by decide⟩

lemma escaped_simple {e x : Char} (h : c.rest = e :: cs) (he : Json.simpleEscape? e = some x) :
    escaped c = .ok ([.char x], c.next) := by
  rw [escaped, Cursor.peek?_cons h]
  simp only [(controlEscape?_of_simpleEscape? he).1]

lemma escaped_code {x : Point} {c' : Cursor} (h : c.rest = 'u' :: cs)
    (hx : numberedPoint 4 c.next = .ok (x, c')) : escaped c = .ok ([x], c') := by
  rw [escaped, Cursor.peek?_cons h]
  show (numberedPoint 4 c.next).map _ = _
  rw [hx]
  rfl

lemma isBreak_of_isHexDigit (h : isHexDigit ch = true) : isBreak ch = false := by
  rw [← Bool.not_eq_true]
  intro hbreak
  simp only [isBreak, Bool.or_eq_true, beq_iff_eq] at hbreak
  rcases hbreak with ((((rfl | rfl) | rfl) | rfl) | rfl) <;> exact absurd h (by decide)

section

variable {a b d e : Char} {n : Nat} (h : c.rest = a :: b :: d :: e :: cs)
  (hcode : Json.hexCode? a b d e = some n)

include h hcode

lemma along_code : (c.skip 4).rest = cs ∧ Cursor.Along c (c.skip 4) :=
  have hdigits := (Json.hexCode?_eq_some hcode).1
  Cursor.along_skip (w := [a, b, d, e])
    (fun ch hch => isBreak_of_isHexDigit (List.all_eq_true.1 hdigits ch hch)) c h

lemma numberedPoint_code : numberedPoint 4 c = .ok (.ofCode n, c.skip 4) := by
  obtain ⟨hdigits, hn, hlt⟩ := Json.hexCode?_eq_some hcode
  have hsmall : ¬greatestCode < n := by
    unfold greatestCode
    omega
  have hrange : ¬0x10ffff < n := by omega
  have htake : c.rest.take 4 = [a, b, d, e] := by simp [h]
  have hshort :
      ¬(decide ([a, b, d, e].length < 4) || !List.all [a, b, d, e] isHexDigit) = true := by
    rw [hdigits]
    exact Bool.false_ne_true
  unfold numberedPoint
  dsimp only
  rw [htake, hn, if_neg hshort, if_neg hsmall, if_neg hrange]

end

end

/-! ### Strings in both formats -/

/-- Inside a string the blanks are spaces, and the line does not end behind them. -/
lemma exists_behind_blanks {cs rest : List Char} {body : List Point}
    (h : Json.StringReads cs body rest)
    (hcs : ∀ ch ∈ cs, 32 ≤ ch.toNat → isBreak ch = false) :
    ∃ ch more, cs.dropWhile isQuotedBlank = ch :: more ∧ isBreak ch = false := by
  induction h with
  | close rest => exact ⟨'"', rest, rfl, rfl⟩
  | @char c cs _ _ _ _ hc _ ih =>
    by_cases hblank : isQuotedBlank c = true
    · rw [List.dropWhile_cons_of_pos hblank]
      exact ih fun ch hch => hcs ch (List.mem_cons_of_mem c hch)
    · exact ⟨c, cs, List.dropWhile_cons_of_neg hblank, hcs c List.mem_cons_self hc⟩
  | escape | code | pair => exact ⟨'\\', _, rfl, rfl⟩

variable {ch : Char} {cs more rest : List Char} {text body : List Point}

/-- In double quotes `ch :: cs` starts with one part, which gives `text` and leaves `more` on the
same line. -/
def PartReads (ch : Char) (cs : List Char) (text : List Point) (more : List Char) : Prop :=
  ∀ c : Cursor, c.rest = ch :: cs →
    ∃ c', quotedPart ch c = .ok (text, c') ∧ c'.rest = more ∧ Cursor.Along c c'

/-- In double quotes `cs` gives `body` up to the closing quote and leaves `rest` on the same line,
with more fuel than there are characters. -/
def QuotedReads (cs : List Char) (body : List Point) (rest : List Char) : Prop :=
  ∀ (fuel : Nat) (c : Cursor), c.rest = cs → cs.length < fuel →
    ∃ c', quotedText '"' fuel c = .ok (body, c') ∧ c'.rest = rest ∧ Cursor.Along c c'

lemma partReads_char (hback : ch ≠ '\\') (hblank : isQuotedBlank ch ≠ true)
    (hbreak : isBreak ch = false) : PartReads ch cs [.char ch] cs := fun c hc =>
  ⟨c.next, quotedPart_char hback hblank hbreak, Cursor.next_rest hc, Cursor.along_next hc hbreak⟩

lemma partReads_escape {e : Char} (he : Json.simpleEscape? ch = some e) :
    PartReads '\\' (ch :: cs) [.char e] cs := by
  intro c hc
  have hnext := Cursor.next_rest hc
  have hbreak := (controlEscape?_of_simpleEscape? he).2
  exact ⟨c.next.next, escaped_simple hnext he, Cursor.next_rest hnext,
    (Cursor.along_next hc rfl).trans (Cursor.along_next hnext hbreak)⟩

lemma partReads_code {a b d e : Char} {n : Nat} (hcode : Json.hexCode? a b d e = some n) :
    PartReads '\\' ('u' :: a :: b :: d :: e :: cs) [.ofCode n] cs := by
  intro c hc
  have hnext := Cursor.next_rest hc
  have hdigits := Cursor.next_rest hnext
  obtain ⟨hbehind, halong⟩ := along_code hdigits hcode
  exact ⟨_, escaped_code hnext (numberedPoint_code hdigits hcode), hbehind,
    ((Cursor.along_next hc rfl).trans (Cursor.along_next hnext rfl)).trans halong⟩

namespace QuotedReads

lemma close (rest : List Char) : QuotedReads ('"' :: rest) [] rest := by
  intro fuel c hc hfuel
  obtain ⟨fuel, rfl⟩ : ∃ f, fuel = f + 1 := ⟨fuel - 1, by omega⟩
  exact ⟨c.next, quotedText_close hc, Cursor.next_rest hc, Cursor.along_next hc rfl⟩

/-- A part is put before what is read behind it. -/
lemma part (h : QuotedReads more body rest) (hquote : ch ≠ '"') (hpart : PartReads ch cs text more)
    (hlength : more.length ≤ cs.length) : QuotedReads (ch :: cs) (text ++ body) rest := by
  intro fuel c hc hfuel
  obtain ⟨fuel, rfl⟩ : ∃ f, fuel = f + 1 := ⟨fuel - 1, by omega⟩
  simp only [List.length_cons] at hfuel
  obtain ⟨c', hpart, hmore, hfirst⟩ := hpart c hc
  obtain ⟨c'', hread, hrest, halong⟩ := h fuel c' hmore (by omega)
  refine ⟨c'', ?_, hrest, hfirst.trans halong⟩
  rw [quotedText_part hc hquote hpart, hread]
  rfl

/-- A blank that the line does not end behind is put before what is read behind it, though further
blanks are of the same part. -/
lemma blank (h : QuotedReads cs body rest) (hblank : isQuotedBlank ch = true)
    (hend : ∃ x more, cs.dropWhile isQuotedBlank = x :: more ∧ isBreak x = false) :
    QuotedReads (ch :: cs) (.char ch :: body) rest := by
  intro fuel c hc hfuel
  obtain ⟨fuel, rfl⟩ : ∃ f, fuel = f + 1 := ⟨fuel - 1, by omega⟩
  simp only [List.length_cons] at hfuel
  obtain ⟨x, more, hend, hx⟩ := hend
  have hnext := Cursor.next_rest hc
  have hstep := Cursor.along_next hc (isBreak_of_isQuotedBlank hblank)
  have htake := Cursor.takeWhile_cons hc hblank
  have hskip : c.skipWhile isQuotedBlank = c.next.skipWhile isQuotedBlank := by
    rw [Cursor.skipWhile, htake]
  have hend' : (c.next.skipWhile isQuotedBlank).rest = x :: more := by
    rw [Cursor.skipWhile_rest, hnext, hend]
  rw [quotedText_blanks hc hblank (hskip ▸ hend') hx, htake, hskip]
  cases cs with
  | nil => cases hend
  | cons y ys =>
    by_cases hy : isQuotedBlank y = true
    · -- the next blank would be read in a part of its own, with fuel of its own
      obtain ⟨c', hread, hrest, halong⟩ := h (fuel + 1) c.next hnext (by omega)
      rw [quotedText_blanks hnext hy hend' hx] at hread
      obtain ⟨r, hr, heq⟩ := except_map_eq_ok.1 hread
      cases heq
      exact ⟨_, by rw [hr]; rfl, hrest, hstep.trans halong⟩
    · obtain ⟨c', hread, hrest, halong⟩ := h fuel c.next hnext (by omega)
      rw [Cursor.skipWhile, Cursor.takeWhile_nil hnext (by simpa using hy), hread]
      exact ⟨_, rfl, hrest, hstep.trans halong⟩

end QuotedReads

/-- A string of JSON is the same text in double quotes, and ends at the same place. Line ends of
YAML may only stand in the text as control characters, which no string has. -/
theorem quotedReads_of_stringReads (h : Json.StringReads cs body rest)
    (hcs : ∀ ch ∈ cs, 32 ≤ ch.toNat → isBreak ch = false) (hhalves : Json.hasHalves cs = false) :
    QuotedReads cs body rest := by
  induction h with
  | close rest => exact .close rest
  | @char ch cs rest body hquote hback hch hmore ih =>
    obtain ⟨hbreak, hcs⟩ := List.forall_mem_cons.1 hcs
    rw [Json.hasHalves_char hquote hback] at hhalves
    by_cases hblank : isQuotedBlank ch = true
    · exact (ih hcs hhalves).blank hblank (exists_behind_blanks hmore hcs)
    · exact (ih hcs hhalves).part hquote (partReads_char hback hblank (hbreak hch)) (Nat.le_refl _)
  | escape he hmore ih =>
    rw [Json.hasHalves, Bool.or_eq_false_iff] at hhalves
    exact (ih (fun x hx => hcs x (by simp [hx])) hhalves.2).part (by decide) (partReads_escape he)
      (by simp)
  | code hcode hmore ih =>
    rw [Json.hasHalves, Bool.or_eq_false_iff, Json.hasHalves_code hcode] at hhalves
    exact (ih (fun x hx => hcs x (by simp [hx])) hhalves.2).part (by decide) (partReads_code hcode)
      (by simp only [List.length_cons]; omega)
  | pair hhigh isHigh hlow isLow =>
    simp [Json.hasHalves, Json.opensHalves, hhigh, isHigh, hlow, isLow] at hhalves

end Yaml

end JsonSchema
