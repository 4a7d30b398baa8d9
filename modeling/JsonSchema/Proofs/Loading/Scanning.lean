import JsonSchema.Proofs.Loading.Ends
import JsonSchema.Proofs.Readers.Plain
import Mathlib.Data.List.Infix

/-!
How scanning the scalars of a YAML text fails.

A scanner stops at a place behind the one where it starts, or finds the text malformed. The one
other way to fail is an escape of eight digits that stands for no character. Main statement: a
quoted text without such an escape is scanned or malformed.
-/

namespace JsonSchema.Yaml

/-! ### Parts of a text -/

/-- What holds wherever in a text one stands holds in what is left of it. -/
lemma tails_all_suffix {p : List Char → Bool} {cs rest : List Char} (h : cs.tails.all p = true)
    (hs : rest <:+ cs) : rest.tails.all p = true := by
  rw [List.all_eq_true] at h ⊢
  intro t ht
  exact h t ((List.mem_tails _ _).2 (((List.mem_tails _ _).1 ht).trans hs))

lemma tails_all_self {p : List Char → Bool} {cs : List Char} (h : cs.tails.all p = true) :
    p cs = true := List.all_eq_true.1 h cs ((List.mem_tails _ _).2 List.suffix_rfl)

/-! ### Places behind others -/

namespace Cursor

/-- What is left at one place is a part of what is left at another. -/
def IsBehind (c' c : Cursor) : Prop := c'.rest <:+ c.rest

variable {c c' c'' : Cursor}

lemma IsBehind.refl (c : Cursor) : c.IsBehind c := List.suffix_rfl

lemma IsBehind.trans (h : c''.IsBehind c') (h' : c'.IsBehind c) : c''.IsBehind c :=
  List.IsSuffix.trans h h'

lemma isBehind_skip (n : Nat) (c : Cursor) : (c.skip n).IsBehind c := by
  rw [IsBehind, skip_rest]
  exact List.drop_suffix n _

lemma isBehind_next (c : Cursor) : c.next.IsBehind c := isBehind_skip 1 c

lemma isBehind_skipWhile (test : Char → Bool) (c : Cursor) : (c.skipWhile test).IsBehind c :=
  isBehind_skip _ c

lemma isBehind_skipComment (c : Cursor) : c.skipComment.IsBehind c := by
  unfold skipComment
  split
  · exact isBehind_skipWhile _ c
  · exact .refl c

/-- Behind blanks and a comment. -/
lemma isBehind_skipSpaces_skipComment (c : Cursor) : c.skipSpaces.skipComment.IsBehind c :=
  (isBehind_skipComment _).trans (isBehind_skipWhile _ c)

lemma isBehind_lineBreak? {br : Char} (h : c.lineBreak? = some (br, c')) : c'.IsBehind c := by
  unfold lineBreak? at h
  split at h
  · cases h
    exact isBehind_skip 2 c
  · split at h
    · cases h
      exact isBehind_next c
    · split at h
      · cases h
        exact isBehind_next c
      · cases h
  · cases h

/-- Behind the end of a line, if a line ends here. -/
lemma isBehind_getD_lineBreak? (c : Cursor) : ((c.lineBreak?.map (·.2)).getD c).IsBehind c := by
  cases h : c.lineBreak? with
  | none => exact .refl c
  | some r => exact isBehind_lineBreak? h

end Cursor

open Cursor

/-- What is scanned from a place: the scanner stops behind it, or finds the text malformed. -/
def Scans {α : Type} (c : Cursor) (r : Except Defect (α × Cursor)) : Prop :=
  Ends (· = .malformed) (fun a => a.2.IsBehind c) r

namespace Scans

variable {α β : Type} {c c' : Cursor} {r : Except Defect (α × Cursor)}

lemma ok {a : α} (h : c'.IsBehind c) : Scans c (.ok (a, c')) := h

lemma malformed : Scans c (.error .malformed : Except Defect (α × Cursor)) := rfl

lemma trans (h : Scans c' r) (hc : c'.IsBehind c) : Scans c r := Ends.mono h fun _ ha => ha.trans hc

/-- What is made of what was scanned stops at the same place. -/
lemma map {f : α × Cursor → β × Cursor} (h : Scans c' r) (hc : c'.IsBehind c)
    (hf : ∀ a, (f a).2 = a.2) : Scans c (r.map f) :=
  Ends.map h fun a ha => (hf a).symm ▸ ha.trans hc

lemma bind {f : α × Cursor → Except Defect (β × Cursor)} (h : Scans c r)
    (hf : ∀ a, a.2.IsBehind c → Scans a.2 (f a)) : Scans c (r >>= f) :=
  Ends.bind h fun a ha => (hf a ha).trans ha

end Scans

/-! ### Escapes -/

/-- An escape of eight digits that a text starts with is the number of a character. -/
def escapesCharacter : List Char → Bool
  | '\\' :: 'U' :: rest =>
    let digits := rest.take 8
    digits.length < 8 || !digits.all isHexDigit || hexNumber digits ≤ 0x10ffff
  | _ => true

lemma hexValue?_getD_lt (d : Char) : (Json.hexValue? d).getD 0 < 16 := by
  cases h : Json.hexValue? d with
  | none => exact Nat.zero_lt_succ 15
  | some n => exact (Json.hexValue?_eq_some h).2

lemma foldl_hexValue_lt (ds : List Char) (n : Nat) :
    ds.foldl (fun n d => n * 16 + (Json.hexValue? d).getD 0) n < (n + 1) * 16 ^ ds.length := by
  induction ds generalizing n with
  | nil => simp
  | cons d ds ih =>
    have hd := hexValue?_getD_lt d
    calc _ < (n * 16 + (Json.hexValue? d).getD 0 + 1) * 16 ^ ds.length := ih _
      _ ≤ ((n + 1) * 16) * 16 ^ ds.length := Nat.mul_le_mul_right _ (by omega)
      _ = (n + 1) * 16 ^ (d :: ds).length := by rw [List.length_cons, Nat.pow_succ', Nat.mul_assoc]

lemma hexNumber_lt (ds : List Char) : hexNumber ds < 16 ^ ds.length := by
  simpa [hexNumber] using foldl_hexValue_lt ds 0

section

variable {c : Cursor} {length : Nat}

/-- A number in the range of code points is that of one. -/
lemma scans_numberedPoint (h : (c.rest.take length).length = length →
      (c.rest.take length).all isHexDigit = true → hexNumber (c.rest.take length) ≤ 0x10ffff) :
    Scans c (numberedPoint length c) := by
  unfold numberedPoint
  dsimp only
  split
  · exact .malformed
  · rename_i hdigits
    simp only [Bool.or_eq_true, decide_eq_true_eq, Bool.not_eq_true', not_or, not_lt,
      Bool.not_eq_false] at hdigits
    have hcode := h (Nat.le_antisymm (List.length_take_le _ _) hdigits.1) hdigits.2
    rw [if_neg (by unfold greatestCode; omega), if_neg (by omega)]
    exact .ok (isBehind_skip length c)

/-- Numbers of four digits are all those of code points. -/
lemma scans_numberedPoint_of_le (h : length ≤ 4) : Scans c (numberedPoint length c) := by
  refine scans_numberedPoint fun hlength _ => ?_
  have hlt := hexNumber_lt (c.rest.take length)
  rw [hlength] at hlt
  have hpow : 16 ^ length ≤ 16 ^ 4 := Nat.pow_le_pow_right (by omega) h
  omega

end

/-! ### Quoted scalars -/

lemma scans_quotedBreaks (fuel : Nat) (c : Cursor) : Scans c (quotedBreaks fuel c) := by
  induction fuel generalizing c with
  | zero => exact .ok (.refl c)
  | succ fuel ih =>
    rw [quotedBreaks]
    split
    · exact .malformed
    · have hblanks := isBehind_skipWhile (fun ch => ch == ' ' || ch == '\t') c
      dsimp only
      split
      · rename_i br c' hbreak
        exact .map (ih c') ((isBehind_lineBreak? hbreak).trans hblanks) fun _ => rfl
      · exact .ok hblanks

lemma scans_quotedBlanks (c : Cursor) : Scans c (quotedBlanks c) := by
  have hblanks := isBehind_skipWhile isQuotedBlank c
  rw [quotedBlanks_def]
  split
  · exact .malformed
  · rename_i br c' _ hbreak
    exact .map (scans_quotedBreaks _ c') ((isBehind_lineBreak? hbreak).trans hblanks) fun _ => rfl
  · exact .ok hblanks

/-- Behind a backslash. -/
lemma scans_escaped {c : Cursor} (h : escapesCharacter ('\\' :: c.rest) = true) :
    Scans c (escaped c) := by
  unfold escaped
  split
  · exact .malformed
  · rename_i ch hch
    have hnext := isBehind_next c
    split
    · exact .ok hnext
    · rename_i length _ hlength
      refine .map ?_ hnext fun _ => rfl
      obtain ⟨cs, hcs⟩ := List.head?_eq_some_iff.1 hch
      unfold codeLength? at hlength
      split at hlength <;> cases hlength
      · exact scans_numberedPoint_of_le (by decide)
      · exact scans_numberedPoint_of_le (by decide)
      · refine scans_numberedPoint fun hdigits hhex => ?_
        rw [hcs] at h
        rw [next_rest hcs] at hdigits hhex ⊢
        simpa [escapesCharacter, hdigits, hhex] using h
    · rename_i br c' _ _ hbreak
      exact .map (scans_quotedBreaks _ c') (isBehind_lineBreak? hbreak) fun _ => rfl
    · exact .malformed

/-- A quoted scalar is scanned or malformed if its escapes are of characters. -/
theorem scans_quotedText (quote : Char) (fuel : Nat) {c : Cursor}
    (h : c.rest.tails.all escapesCharacter = true) : Scans c (quotedText quote fuel c) := by
  induction fuel generalizing c with
  | zero => exact .malformed
  | succ fuel ih =>
    have hbehind {c' : Cursor} (hc : c'.IsBehind c) : Scans c' (quotedText quote fuel c') :=
      ih (tails_all_suffix h hc)
    have hnext := isBehind_next c
    rw [quotedText]
    split
    · exact .malformed
    · rename_i ch hch
      split
      · split
        · have hskip := isBehind_skip 2 c
          exact .map (hbehind hskip) hskip fun _ => rfl
        · exact .ok hnext
      · dsimp only
        split
        · rename_i hescape
          obtain ⟨cs, hcs⟩ := List.head?_eq_some_iff.1 hch
          have hslash : ch = '\\' := beq_iff_eq.1 (Bool.and_eq_true _ _ ▸ hescape).1
          refine .bind ((scans_escaped ?_).trans hnext) fun part hpart =>
            .bind (hbehind hpart) fun _ _ => .ok (.refl _)
          rw [next_rest hcs, ← hslash, ← hcs]
          exact tails_all_self h
        · split
          · exact .bind (.map (scans_quotedBlanks c) (.refl c) fun _ => rfl) fun part hpart =>
              .bind (hbehind hpart) fun _ _ => .ok (.refl _)
          · exact .bind (.ok hnext) fun part hpart =>
              .bind (hbehind hpart) fun _ _ => .ok (.refl _)

/-! ### Plain scalars -/

lemma isBehind_plainBreaks (fuel : Nat) (c : Cursor) : (plainBreaks fuel c).2.IsBehind c := by
  induction fuel generalizing c with
  | zero => exact .refl c
  | succ fuel ih =>
    rw [plainBreaks]
    split
    · exact (ih c.next).trans (isBehind_next c)
    · split
      · exact .refl c
      · rename_i br c' hbreak
        have hbehind := isBehind_lineBreak? hbreak
        split
        · exact hbehind
        · exact (ih c').trans hbehind

lemma isBehind_plainBlanks (c : Cursor) : (plainBlanks c).2.2.IsBehind c := by
  have hspaces : c.skipSpaces.IsBehind c := isBehind_skipWhile _ c
  rw [plainBlanks_def]
  split
  · exact hspaces
  · rename_i br c' hbreak
    have hbehind := (isBehind_lineBreak? hbreak).trans hspaces
    have hbreaks := (isBehind_plainBreaks (c'.rest.length + 1) c').trans hbehind
    split
    · exact hbehind
    · split <;> (rename_i heq; rw [heq] at hbreaks; exact hbreaks)

lemma isBehind_plainText (inFlow : Bool) (indent : Int) (fuel : Nat) (blanks : List Char)
    (crossed : Bool) (c : Cursor) :
    (plainText inFlow indent fuel blanks crossed c).behind.IsBehind c := by
  induction fuel generalizing blanks crossed c with
  | zero => exact .refl c
  | succ fuel ih =>
    rw [plainText]
    dsimp only
    split
    · exact .refl c
    · have hword := isBehind_skip (plainLength inFlow c.rest) c
      have hblanks := (isBehind_plainBlanks (c.skip (plainLength inFlow c.rest))).trans hword
      split
      · exact hblanks
      · exact (ih _ _ _).trans hblanks

/-! ### Block scalars -/

lemma isBehind_leadingLines (fuel deepest : Nat) (c : Cursor) :
    (leadingLines fuel deepest c).2.2.IsBehind c := by
  induction fuel generalizing deepest c with
  | zero => exact .refl c
  | succ fuel ih =>
    rw [leadingLines]
    split
    · exact (ih _ c.next).trans (isBehind_next c)
    · split
      · rename_i br c' hbreak
        exact (ih deepest c').trans (isBehind_lineBreak? hbreak)
      · exact .refl c

lemma isBehind_emptyLines (indent fuel : Nat) (c : Cursor) :
    (emptyLines indent fuel c).2.IsBehind c := by
  induction fuel generalizing c with
  | zero => exact .refl c
  | succ fuel ih =>
    have hspaces : (c.skipSpacesTo indent).IsBehind c := isBehind_skip _ c
    rw [emptyLines]
    dsimp only
    split
    · rename_i br c' hbreak
      exact (ih c').trans ((isBehind_lineBreak? hbreak).trans hspaces)
    · exact hspaces

/-- Behind the end of a line, with what was passed. -/
lemma isBehind_of_lineEnd {c c' : Cursor} {brk : List Char}
    (h : (match c.lineBreak? with
      | some (br, c) => ([br], c)
      | none => ([], c)) = (brk, c')) : c'.IsBehind c := by
  split at h
  · rename_i hbreak
    cases h
    exact isBehind_lineBreak? hbreak
  · cases h
    exact .refl c

lemma isBehind_blockLines (fold : Bool) (chomping : Chomping) (indent fuel : Nat)
    (gap lastBreak : List Char) (c : Cursor) :
    (blockLines fold chomping indent fuel gap lastBreak c).2.IsBehind c := by
  -- behind a line, its end, and the empty lines after it
  have hturn {c c₁ c₂ c₃ : Cursor} {line brk next : List Char}
      (hline : (c.takeWhile fun ch => !isBreak ch) = (line, c₁))
      (hbrk : (match c₁.lineBreak? with
        | some (br, c) => ([br], c)
        | none => ([], c₁)) = (brk, c₂))
      (hnext : emptyLines indent (c₂.rest.length + 1) c₂ = (next, c₃)) : c₃.IsBehind c := by
    have hempty := isBehind_emptyLines indent (c₂.rest.length + 1) c₂
    have hrest := isBehind_skipWhile (fun ch => !isBreak ch) c
    rw [skipWhile, hline] at hrest
    rw [hnext] at hempty
    exact (hempty.trans (isBehind_of_lineEnd hbrk)).trans hrest
  fun_induction blockLines fold chomping indent fuel gap lastBreak c
  case case1 => exact .refl _
  case case2 hline _ _ hbrk _ _ hnext _ _ _ _ hmore ih =>
    rw [hmore] at ih
    exact ih.trans (hturn hline hbrk hnext)
  case case3 hline _ _ hbrk _ _ hnext _ _ _ hmore ih =>
    rw [hmore] at ih
    exact ih.trans (hturn hline hbrk hnext)
  case case4 => exact .refl _

/-- The signs of a header are passed. -/
lemma isBehind_of_headerSigns {c c' : Cursor} {chomping : Chomping} {increment : Option Nat}
    (h : (match chompingOf? c.peek?, indentationOf? c.peek? with
      | some ch, _ =>
        match indentationOf? c.next.peek? with
        | some n => (ch, some n, c.skip 2)
        | none => (ch, none, c.next)
      | none, some n =>
        match chompingOf? c.next.peek? with
        | some ch => (ch, some n, c.skip 2)
        | none => (.clip, some n, c.next)
      | none, none => (.clip, none, c)) = (chomping, increment, c')) : c'.IsBehind c := by
  split at h
  · split at h <;> cases h
    · exact isBehind_skip 2 c
    · exact isBehind_next c
  · split at h <;> cases h
    · exact isBehind_skip 2 c
    · exact isBehind_next c
  · cases h
    exact .refl c

lemma ends_blockHeader (c : Cursor) :
    Ends (· = .malformed) (fun r => r.2.2.IsBehind c) (blockHeader c) := by
  fun_cases blockHeader c
  case case1 => exact .error rfl
  case case2 hsigns jp _ =>
    have hbehind := isBehind_of_headerSigns hsigns
    dsimp only [jp]
    split
    · exact .error rfl
    · exact .ok ((isBehind_getD_lineBreak? _).trans
        ((isBehind_skipSpaces_skipComment _).trans hbehind))

lemma scans_blockText (fold : Bool) (parent : Int) (c : Cursor) :
    Scans c (blockText fold parent c) := by
  refine Ends.bind (ends_blockHeader c) ?_
  rintro ⟨chomping, increment, c'⟩ hheader
  cases increment with
  | none =>
    have hlines := (isBehind_leadingLines (c'.rest.length + 1) 0 c').trans hheader
    exact .ok ((isBehind_blockLines _ _ _ _ _ _
      (leadingLines (c'.rest.length + 1) 0 c').2.2).trans hlines)
  | some n =>
    let indent := (max (parent + 1) 1).toNat + n - 1
    have hlines := (isBehind_emptyLines indent (c'.rest.length + 1) c').trans hheader
    exact .ok ((isBehind_blockLines _ _ _ _ _ _
      (emptyLines indent (c'.rest.length + 1) c').2).trans hlines)

end JsonSchema.Yaml
