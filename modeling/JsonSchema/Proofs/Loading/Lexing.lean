import JsonSchema.Document.Yaml.Lexer
import JsonSchema.Proofs.Loading.Scanning

/-!
How cutting a YAML text into tokens fails.

A lexer stays sound: it stands in a text whose escapes are of characters and whose versions are
short, and the tokens that it has cut say of nothing but a malformed text that it breaks. Each step
keeps that or finds the text malformed, and so does a run, by induction on its turns. Main
statement: the tokens of such a text are sound.
-/

namespace JsonSchema.Yaml

open Cursor

/-! ### Names, tags and directives -/

lemma scans_anchorName (c : Cursor) : Scans c (anchorName c) := by
  unfold anchorName
  dsimp only
  split
  · exact .malformed
  · exact .ok (isBehind_skipWhile isNameChar c)

lemma scans_uriBytes (fuel : Nat) (c : Cursor) : Scans c (uriBytes fuel c) := by
  induction fuel generalizing c with
  | zero => exact .ok (.refl c)
  | succ fuel ih =>
    rw [uriBytes]
    split
    · split
      · have hskip := isBehind_skip 3 c
        exact .trans (.bind (ih _) fun _ _ => .ok (.refl _)) hskip
      · exact .malformed
    · exact .malformed
    · exact .ok (.refl c)

lemma scans_uriText (fuel : Nat) (c : Cursor) : Scans c (uriText fuel c) := by
  induction fuel generalizing c with
  | zero => exact .ok (.refl c)
  | succ fuel ih =>
    rw [uriText]
    split
    · exact .ok (.refl c)
    · split
      · refine .bind (scans_uriBytes _ c) fun r _ => ?_
        dsimp only
        split
        · exact .malformed
        · exact .bind (ih r.2) fun _ _ => .ok (.refl _)
      · split
        · exact .trans (.bind (ih _) fun _ _ => .ok (.refl _)) (isBehind_next c)
        · exact .ok (.refl c)

lemma scans_uri (c : Cursor) : Scans c (uri c) := by
  refine .bind (scans_uriText _ c) fun r _ => ?_
  dsimp only
  split
  · exact .malformed
  · exact .ok (.refl _)

lemma scans_tagHandle (c : Cursor) : Scans c (tagHandle c) := by
  unfold tagHandle
  split
  · exact .malformed
  · have hnext := isBehind_next c
    split
    · exact .ok hnext
    · have hname := (isBehind_skipWhile isNameChar c.next).trans hnext
      dsimp only
      split
      · exact .ok ((isBehind_next _).trans hname)
      · exact .malformed

/-- A token that does not say of a text that is not malformed that it breaks. -/
def Token.IsSound (t : Token) : Prop := ∀ d, t = .broken d → d = .malformed

/-- A sound token is scanned, or the text is malformed. -/
def ScansToken (c : Cursor) (r : Except Defect (Token × Cursor)) : Prop :=
  Ends (· = .malformed) (fun a => a.1.IsSound ∧ a.2.IsBehind c) r

lemma scansToken_tag (c : Cursor) : ScansToken c (tagToken c) := by
  -- a tag ends with its word
  have hword {c' : Cursor} (handle : Option String) (suffix : String) (hc : c'.IsBehind c) :
      ScansToken c (if endsWord c'.peek? then pure (Token.tag handle suffix, c')
        else throw .malformed) := by
    split
    · exact .ok ⟨by rintro _ ⟨⟩, hc⟩
    · exact .error rfl
  have hsuffix {c' : Cursor} (handle : String) (hc : c'.IsBehind c) :
      ScansToken c (do
        let r ← uri c'
        if endsWord r.2.peek? then pure (Token.tag (some handle) r.1, r.2)
        else throw .malformed) :=
    Ends.bind (scans_uri c') fun r hr => hword (some handle) r.1 (hr.trans hc)
  have hnext := isBehind_next c
  fun_cases tagToken c
  case case1 =>
    refine Ends.bind (scans_uri _) fun r hr => ?_
    dsimp only
    split
    · exact hword none r.1 ((isBehind_next r.2).trans (hr.trans (isBehind_skip 2 c)))
    · exact .error rfl
  case case2 => exact hword none "!" hnext
  case case3 => exact Ends.bind (scans_tagHandle c) fun r hr => hsuffix r.1 hr
  case case4 => exact hsuffix "!" hnext

/-- The digits that a text starts with are no more than are read. -/
def startsShort (cs : List Char) : Bool := (cs.takeWhile Char.isDigit).length ≤ digitLimit

lemma ends_versionNumber {c : Cursor} (h : startsShort c.rest = true) :
    Ends (· = .malformed) (fun a => a.2 = c.skipWhile Char.isDigit) (versionNumber c) := by
  unfold versionNumber
  dsimp only
  split
  · exact .error rfl
  · have hlength : (c.takeWhile Char.isDigit).1.length ≤ digitLimit := of_decide_eq_true h
    rw [if_neg (by omega)]
    exact .ok rfl

/-- The numbers of a version, behind spaces and behind a point, have no more digits than are
read. -/
def isShortVersion (cs : List Char) : Bool :=
  let major := cs.dropWhile (· == ' ')
  startsShort major && startsShort (major.dropWhile Char.isDigit).tail

lemma scans_versionDirective {c : Cursor} (h : isShortVersion c.rest = true) :
    Scans c (versionDirective c) := by
  have hdigits (c : Cursor) : (c.skipWhile Char.isDigit).IsBehind c := isBehind_skipWhile _ c
  have hspaces : c.skipSpaces.rest = c.rest.dropWhile (· == ' ') := skipWhile_rest _ c
  simp only [isShortVersion, Bool.and_eq_true] at h
  obtain ⟨hmajor, hminor⟩ := h
  refine Ends.bind (ends_versionNumber (hspaces ▸ hmajor)) fun major hmajor => ?_
  dsimp only
  split
  · exact .error rfl
  · rename_i hpoint
    have hrest : major.2.next.rest = major.2.rest.tail := by
      obtain ⟨cs, hcs⟩ := List.head?_eq_some_iff.1
        (show major.2.rest.head? = some '.' by simpa [isAt, peek?] using hpoint)
      rw [next_rest hcs, hcs, List.tail_cons]
    rw [← hspaces, ← skipWhile_rest, ← hmajor, ← hrest] at hminor
    refine Ends.bind (ends_versionNumber hminor) fun minor hminor => ?_
    split
    · refine .ok ?_
      rw [hminor]
      have hnext : major.2.next.IsBehind c.skipSpaces :=
        (isBehind_next major.2).trans (hmajor ▸ hdigits c.skipSpaces)
      exact ((hdigits _).trans hnext).trans (isBehind_skipWhile _ c)
    · exact .error rfl

lemma scans_tagDirective (c : Cursor) : Scans c (tagDirective c) := by
  have hspaces (c : Cursor) : c.skipSpaces.IsBehind c := isBehind_skipWhile _ c
  refine .bind ((scans_tagHandle _).trans (hspaces c)) fun handle _ => ?_
  dsimp only
  split
  · exact .malformed
  · refine .bind ((scans_uri _).trans (hspaces handle.2)) fun expansion _ => ?_
    split
    · exact .ok (.refl _)
    · exact .malformed

/-- A directive that a text starts with is not of a version, or of a short one. -/
def hasShortVersion (cs : List Char) : Bool :=
  !"%YAML".toList.isPrefixOf cs || isShortVersion (cs.drop 5)

lemma scansToken_directive {c : Cursor} (h : hasShortVersion ('%' :: c.rest) = true) :
    ScansToken c (directiveToken c) := by
  fun_cases directiveToken c
  case case1 => exact .error rfl
  case case2 name c' hname jp _ =>
    have hbehind : c'.IsBehind c := by
      have hskip := isBehind_skipWhile isNameChar c
      rwa [skipWhile, hname] at hskip
    -- a directive takes its line, whatever its name is
    have hline (d : Directive) {c'' : Cursor} (hc : c''.IsBehind c) :
        ScansToken c (do
          if !endsLine c''.skipSpaces.skipComment.peek? then throw .malformed
          return (.directive d, (((c''.skipSpaces.skipComment).lineBreak?).map (·.2)).getD
            c''.skipSpaces.skipComment)) := by
      split
      · exact .error rfl
      · exact .ok ⟨by rintro _ ⟨⟩, (isBehind_getD_lineBreak? _).trans
          ((isBehind_skipSpaces_skipComment _).trans hc)⟩
    have hdirective {r : Except Defect (Directive × Cursor)} (hr : Scans c' r) :
        Ends (· = .malformed) (fun a => a.2.IsBehind c) r := hr.trans hbehind
    dsimp only [jp]
    split
    · rename_i hyaml
      have hrest : c.rest = "YAML".toList ++ c'.rest := by
        have htaken : c.rest.takeWhile isNameChar = name := congrArg Prod.fst hname
        have hleft : (c.skipWhile isNameChar) = c' := congrArg Prod.snd hname
        rw [← hyaml, String.toList_ofList, ← htaken, ← hleft, skipWhile_rest,
          List.takeWhile_append_dropWhile]
      rw [hrest] at h
      exact Ends.bind (hdirective (scans_versionDirective h)) fun r hr => hline r.1 hr
    · exact Ends.bind (hdirective (scans_tagDirective c')) fun r hr => hline r.1 hr
    · exact hline .other ((isBehind_skipWhile _ c').trans hbehind)

/-! ### Sound lexers -/

/-- Escapes of eight digits are of characters, and versions are short, wherever they stand. -/
def isOrdinary (cs : List Char) : Bool :=
  cs.tails.all fun t => escapesCharacter t && hasShortVersion t

lemma escapesCharacter_of_isOrdinary {cs : List Char} (h : isOrdinary cs = true) :
    cs.tails.all escapesCharacter = true :=
  List.all_eq_true.2 fun t ht =>
    (Bool.and_eq_true _ _ ▸ List.all_eq_true.1 h t ht : _ ∧ _).1

namespace Lexer

structure IsSound (l : Lexer) : Prop where
  text : isOrdinary l.cursor.rest = true
  slots : ∀ s ∈ l.slots.toList, ∀ t ∈ s.1 ++ [s.2], t.IsSound

/-- A step leads to a sound lexer, or finds the text malformed. -/
abbrev StepsSoundly (r : Except Defect Lexer) : Prop := Ends (· = .malformed) IsSound r

section

variable {l : Lexer}

/-- Only the place and the tokens matter. -/
lemma IsSound.congr (h : l.IsSound) {l' : Lexer} (hcursor : l'.cursor = l.cursor)
    (hslots : l'.slots = l.slots) : l'.IsSound :=
  ⟨hcursor ▸ h.text, hslots ▸ h.slots⟩

lemma IsSound.emit (h : l.IsSound) {t : Token} (ht : t.IsSound) : (l.emit t).IsSound where
  text := h.text
  slots s hs := by
    rw [Lexer.emit, Array.toList_push, List.mem_append, List.mem_singleton] at hs
    rcases hs with hs | rfl
    · exact h.slots s hs
    · simpa using ht

lemma IsSound.at_ (h : l.IsSound) {c : Cursor} (hc : c.IsBehind l.cursor) : (l.at_ c).IsSound :=
  ⟨tails_all_suffix h.text hc, h.slots⟩

lemma IsSound.sign (h : l.IsSound) {t : Token} (ht : t.IsSound) (length : Nat) :
    (l.sign t length).IsSound := (h.at_ (isBehind_skip length _)).emit ht

/-! ### Keys and blocks -/

lemma steps_dropStaleKeys (h : l.IsSound) : StepsSoundly l.dropStaleKeys := by
  unfold dropStaleKeys
  split
  · exact .error rfl
  · exact .ok (h.congr rfl rfl)

/-- Forgetting a key does not move. -/
lemma ends_dropKey (h : l.IsSound) :
    Ends (· = .malformed) (fun l' => l'.IsSound ∧ l'.cursor = l.cursor) l.dropKey := by
  unfold dropKey
  split
  · exact .error rfl
  · exact .ok ⟨h.congr rfl rfl, rfl⟩

lemma steps_dropKey (h : l.IsSound) : StepsSoundly l.dropKey :=
  (ends_dropKey h).mono fun _ h' => h'.1

lemma steps_saveKey (h : l.IsSound) : StepsSoundly l.saveKey := by
  unfold saveKey
  split
  · exact .bind (steps_dropKey h) fun _ h' => .ok (h'.congr rfl rfl)
  · exact .ok h

lemma IsSound.closeBlocks (h : l.IsSound) (column : Int) (outer : List Int) :
    (closeBlocks column outer l).IsSound ∧ (closeBlocks column outer l).cursor = l.cursor := by
  induction outer generalizing l with
  | nil => exact ⟨h, rfl⟩
  | cons i outer ih =>
    rw [Lexer.closeBlocks]
    split
    · have hend : Token.IsSound .blockEnd := nofun
      have hinner : IsSound { l with indent := i, outer := outer } := h.congr rfl rfl
      exact ih (hinner.emit hend)
    · exact ⟨h, rfl⟩

/-- Closing blocks does not move. -/
lemma IsSound.unwind (h : l.IsSound) (column : Int) :
    (l.unwind column).IsSound ∧ (l.unwind column).cursor = l.cursor := by
  unfold Lexer.unwind
  split
  · exact ⟨h, rfl⟩
  · exact h.closeBlocks column l.outer

lemma IsSound.indentTo? (h : l.IsSound) {column : Int} {l' : Lexer}
    (hl : l.indentTo? column = some l') : l'.IsSound := by
  unfold Lexer.indentTo? at hl
  split at hl <;> cases hl
  exact h.congr rfl rfl

lemma steps_openBlock (h : l.IsSound) {t : Token} (ht : t.IsSound) :
    StepsSoundly (l.openBlock t) := by
  unfold openBlock
  split
  · exact .ok h
  · split
    · exact .error rfl
    · split
      · rename_i l' hl
        exact .ok ((h.indentTo? hl).emit ht)
      · exact .ok h

/-! ### Tokens -/

lemma steps_content (h : l.IsSound) {r : Except Defect (Token × Cursor)}
    (hr : ScansToken l.cursor r) : StepsSoundly (l.content r) :=
  .bind hr fun _ ha => .ok (((h.at_ ha.2).emit ha.1).congr rfl rfl)

lemma steps_marker (h : l.IsSound) {t : Token} (ht : t.IsSound) : StepsSoundly (l.marker t) :=
  .bind (steps_dropKey (h.unwind _).1) fun _ h' => .ok ((h'.sign ht 3).congr rfl rfl)

lemma steps_directive (h : l.IsSound) (hsign : l.cursor.peek? = some '%') :
    StepsSoundly l.directive := by
  obtain ⟨hunwind, hcursor⟩ := h.unwind (-1)
  refine .bind (ends_dropKey hunwind) fun l' h' => ?_
  obtain ⟨cs, hcs⟩ := List.head?_eq_some_iff.1 hsign
  have hrest : l'.cursor.rest = '%' :: cs := by rw [h'.2, hcursor, hcs]
  have hshort : hasShortVersion ('%' :: l'.cursor.next.rest) = true := by
    rw [next_rest hrest, ← hcs]
    exact (Bool.and_eq_true _ _ ▸ tails_all_self h.text : _ ∧ _).2
  exact steps_content h'.1
    ((scansToken_directive hshort).mono fun _ ha => ⟨ha.1, ha.2.trans (isBehind_next _)⟩)

lemma steps_flowStart (h : l.IsSound) {t : Token} (ht : t.IsSound) :
    StepsSoundly (l.flowStart t) :=
  .bind (steps_saveKey h) fun _ h' => .ok ((h'.sign ht 1).congr rfl rfl)

lemma steps_flowEnd (h : l.IsSound) {t : Token} (ht : t.IsSound) : StepsSoundly (l.flowEnd t) :=
  .bind (steps_dropKey h) fun _ h' => .ok ((h'.sign ht 1).congr rfl rfl)

lemma steps_flowEntry (h : l.IsSound) : StepsSoundly l.flowEntry := by
  have ht : Token.IsSound .flowEntry := nofun
  exact .bind (steps_dropKey h) fun _ h' => .ok ((h'.sign ht 1).congr rfl rfl)

lemma steps_blockEntry (h : l.IsSound) : StepsSoundly l.blockEntry := by
  have ht : Token.IsSound .blockEntry := nofun
  exact .bind (steps_openBlock h nofun) fun _ hopen => .bind (steps_dropKey hopen) fun _ h' =>
    .ok ((h'.sign ht 1).congr rfl rfl)

lemma steps_keySign (h : l.IsSound) : StepsSoundly l.keySign := by
  have ht : Token.IsSound .key := nofun
  exact .bind (steps_openBlock h nofun) fun _ hopen => .bind (steps_dropKey hopen) fun _ h' =>
    .ok ((h'.sign ht 1).congr rfl rfl)

/-- Signs are put before a token that is there already. -/
lemma IsSound.modify (h : l.IsSound) (n : Nat) {signs : List Token}
    (hsigns : ∀ t ∈ signs, t.IsSound) :
    IsSound { l with slots := l.slots.modify n fun s => (signs, s.2) } where
  text := h.text
  slots s hs t ht := by
    obtain ⟨i, hi, rfl⟩ := List.getElem_of_mem hs
    simp only [Array.toList_modify] at hi ht
    rw [List.length_modify] at hi
    have hold := h.slots _ (List.getElem_mem hi)
    rw [List.getElem_modify] at ht
    split at ht
    · rcases List.mem_append.1 ht with ht | ht
      · exact hsigns t ht
      · exact hold t (List.mem_append_right _ ht)
    · exact hold t ht

lemma steps_valueSign (h : l.IsSound) : StepsSoundly l.valueSign := by
  have ht : Token.IsSound .value := nofun
  fun_cases valueSign l
  case case1 k _ l₀ signs l₁ hopen l₂ =>
    have hl₀ : l₀.IsSound := h.congr rfl rfl
    obtain ⟨hsigns, hl₁⟩ : (∀ t ∈ signs, t.IsSound) ∧ l₁.IsSound := by
      split at hopen
      · rename_i hindent
        cases hopen
        split at hindent
        · cases hindent
        · exact ⟨by simp [Token.IsSound], hl₀.indentTo? hindent⟩
      · cases hopen
        exact ⟨by simp [Token.IsSound], hl₀⟩
    exact .ok (((hl₁.modify k.token hsigns).sign ht 1).congr rfl rfl)
  case case2 =>
    exact .bind (steps_openBlock h nofun) fun _ hopen =>
      .bind (steps_dropKey (hopen.congr rfl rfl)) fun _ h' => .ok (h'.sign ht 1)

lemma steps_named (h : l.IsSound) {make : String → Token} (hmake : ∀ name, (make name).IsSound) :
    StepsSoundly (l.named make) :=
  .bind (steps_saveKey h) fun _ h' => steps_content h'
    (Ends.map (scans_anchorName _) fun r hr => ⟨hmake r.1, hr.trans (isBehind_next _)⟩)

lemma steps_tag (h : l.IsSound) : StepsSoundly l.tag :=
  .bind (steps_saveKey h) fun _ h' => steps_content h' (scansToken_tag _)

lemma steps_block (h : l.IsSound) (fold : Bool) : StepsSoundly (l.block fold) := by
  refine .bind (steps_dropKey (l := { l with keyAllowed := true }) (h.congr rfl rfl))
    fun l' h' => Ends.bind (scans_blockText fold l'.indent _) fun r hr => ?_
  exact .ok ((h'.at_ (hr.trans (isBehind_next _))).emit nofun)

lemma steps_quoted (h : l.IsSound) (quote : Char) : StepsSoundly (l.quoted quote) := by
  refine .bind (steps_saveKey h) fun l' h' => steps_content h' ?_
  have hescapes := escapesCharacter_of_isOrdinary h'.text
  exact Ends.map (scans_quotedText quote _ (tails_all_suffix hescapes (isBehind_next _)))
    fun r hr => ⟨nofun, hr.trans (isBehind_next _)⟩

lemma steps_plain (h : l.IsSound) : StepsSoundly l.plain := by
  refine .bind (steps_saveKey h) fun l' h' => ?_
  have hbehind := isBehind_plainText l'.isInFlow (l'.indent + 1) (l'.cursor.rest.length + 1) []
    false l'.cursor
  have ht (text : String) : Token.IsSound (.scalar text true) := nofun
  exact .ok (((h'.at_ hbehind).emit (ht (String.ofList _))).congr rfl rfl)

/-- Every token keeps a lexer sound. -/
lemma steps_token (h : l.IsSound) {ch : Char} (hch : l.cursor.peek? = some ch) :
    StepsSoundly (l.token ch) := by
  unfold token
  dsimp only
  split
  · rename_i hsign
    obtain rfl := beq_iff_eq.1 (Bool.and_eq_true _ _ ▸ hsign : _ ∧ _).2
    exact steps_directive h hch
  · split
    · exact steps_marker h nofun
    · split
      · exact steps_marker h nofun
      · split
        · exact steps_flowStart h nofun
        · exact steps_flowStart h nofun
        · exact steps_flowEnd h nofun
        · exact steps_flowEnd h nofun
        · exact steps_flowEntry h
        · exact steps_named h fun _ => nofun
        · exact steps_named h fun _ => nofun
        · exact steps_tag h
        · exact steps_quoted h _
        · exact steps_quoted h _
        · split_ifs
          · exact steps_blockEntry h
          · exact steps_keySign h
          · exact steps_valueSign h
          · exact steps_block h _
          · exact steps_block h _
          · exact steps_plain h
          · exact .error rfl

/-! ### Runs -/

lemma IsSound.skipToToken (h : l.IsSound) (fuel : Nat) : (skipToToken fuel l).IsSound := by
  induction fuel generalizing l with
  | zero => exact h
  | succ fuel ih =>
    have hmark : (if l.cursor.index = 0 && l.cursor.isAt '\ufeff' then l.cursor.next
        else l.cursor).IsBehind l.cursor := by
      split
      · exact isBehind_next _
      · exact .refl _
    have hskip := (isBehind_skipSpaces_skipComment _).trans hmark
    rw [Lexer.skipToToken]
    dsimp only
    split
    · rename_i br c hbreak
      exact ih ((h.at_ ((isBehind_lineBreak? hbreak).trans hskip)).congr rfl rfl)
    · exact h.at_ hskip

lemma steps_finish (h : l.IsSound) : StepsSoundly l.finish := steps_dropKey (h.unwind _).1

lemma IsSound.breakOff (h : l.IsSound) {d : Defect} (hd : d = .malformed) :
    (l.breakOff d).IsSound := by
  have hcut (n : Nat) : IsSound { l with slots := l.slots.take n } := by
    refine ⟨h.text, fun s hs => h.slots s ?_⟩
    rw [Array.take_eq_extract, Array.toList_extract] at hs
    exact List.mem_of_mem_drop (List.mem_of_mem_take hs)
  exact (hcut _).emit fun _ heq => by cases heq; exact hd

/-- A run keeps a lexer sound. -/
theorem IsSound.run (h : l.IsSound) (fuel : Nat) : (run fuel l).IsSound := by
  induction fuel generalizing l with
  | zero => exact h
  | succ fuel ih =>
    have hskip := h.skipToToken (l.cursor.rest.length + 1)
    have hstale := steps_dropStaleKeys hskip
    rw [Lexer.run]
    dsimp only
    split
    · rename_i d hd
      rw [hd] at hstale
      exact h.breakOff hstale
    · rename_i l₁ hl₁
      rw [hl₁] at hstale
      have hunwind := (IsSound.unwind hstale l₁.cursor.column).1
      split
      · have hfinish := steps_finish hunwind
        split
        · rename_i l₂ hl₂
          rw [hl₂] at hfinish
          exact hfinish
        · rename_i d hd
          rw [hd] at hfinish
          exact h.breakOff hfinish
      · rename_i ch hch
        have htoken := steps_token hunwind hch
        split
        · rename_i l₂ hl₂
          rw [hl₂] at htoken
          exact ih htoken
        · rename_i d hd
          rw [hd] at htoken
          exact h.breakOff htoken

end

end Lexer

/-- The tokens of a text with ordinary escapes and versions are sound. -/
theorem Token.isSound_of_mem_scan {cs : List Char} (h : isOrdinary cs = true) :
    ∀ t ∈ Token.scan cs, t.IsSound := by
  intro t ht
  unfold Token.scan at ht
  split at ht
  · have hstart : (Lexer.ofChars cs).IsSound := ⟨h, nofun⟩
    obtain ⟨s, hs, ht⟩ := List.mem_flatMap.1 ht
    exact (hstart.run (cs.length + 1)).slots s hs t ht
  · obtain rfl := List.mem_singleton.1 ht
    rintro d ⟨⟩
    rfl

end JsonSchema.Yaml
