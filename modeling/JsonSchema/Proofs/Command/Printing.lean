import JsonSchema.Command.Run
import JsonSchema.Proofs.PlainText

/-!
What is printed.

Marks, pictures, tabs, blanks and boxes are characters, and the other code points of a printed line
are of the texts that it shows. Main statement: lines that show texts without halves of pairs can be
written. Each step of putting lines together keeps to code points that are no halves.
-/

namespace JsonSchema

/-- No half of a pair stands among some code points. -/
def NoHalf (ps : List Point) : Prop := ∀ p ∈ ps, p.isHalf = false

section

variable {ps qs : List Point}

lemma noHalf_nil : NoHalf [] := List.forall_mem_nil _

lemma noHalf_cons {p : Point} : NoHalf (p :: ps) ↔ p.isHalf = false ∧ NoHalf ps :=
  List.forall_mem_cons

lemma noHalf_append : NoHalf (ps ++ qs) ↔ NoHalf ps ∧ NoHalf qs := List.forall_mem_append

lemma NoHalf.append (h : NoHalf ps) (h' : NoHalf qs) : NoHalf (ps ++ qs) :=
  noHalf_append.2 ⟨h, h'⟩

lemma NoHalf.subset (h : NoHalf ps) (hsub : ∀ p ∈ qs, p ∈ ps) : NoHalf qs :=
  fun p hp => h p (hsub p hp)

lemma NoHalf.sublist (h : NoHalf ps) (hsub : qs.Sublist ps) : NoHalf qs :=
  h.subset fun _ hp => hsub.subset hp

lemma NoHalf.take (h : NoHalf ps) (n : Nat) : NoHalf (ps.take n) := h.sublist (List.take_sublist ..)

lemma NoHalf.span (h : NoHalf ps) (test : Point → Bool) :
    NoHalf (ps.span test).1 ∧ NoHalf (ps.span test).2 := by
  rw [List.span_eq_takeWhile_dropWhile]
  exact ⟨h.sublist (List.takeWhile_sublist _), h.sublist (List.dropWhile_sublist _)⟩

lemma noHalf_reverse : NoHalf ps.reverse ↔ NoHalf ps :=
  ⟨fun h => h.subset fun _ => List.mem_reverse.2, fun h => h.subset fun _ => List.mem_reverse.1⟩

lemma noHalf_plain (cs : List Char) : NoHalf (Text.plain cs) := List.forall_mem_map.2 fun _ _ => rfl

lemma noHalf_text (s : String) : NoHalf (Text.points s) := Text.points_ofString s ▸ noHalf_plain _

lemma noHalf_points {t : Text} (h : t.isPlain = true) : NoHalf t.points := Text.isPlain_iff.1 h

lemma noHalf_replicate (n : Nat) (c : Char) : NoHalf (List.replicate n (.char c)) := by
  intro p hp
  rw [List.eq_of_mem_replicate hp]
  rfl

end

namespace Terminal

def NoHalves (lines : List (List Point)) : Prop := ∀ line ∈ lines, NoHalf line

variable {ps : List Point} {lines : List (List Point)}

lemma noHalf_blanks (n : Nat) : NoHalf (blanks n) := noHalf_replicate n ' '

lemma noHalves_nil : NoHalves [] := List.forall_mem_nil _

lemma noHalves_one (h : NoHalf ps) : NoHalves [ps] := List.forall_mem_singleton.2 h

lemma noHalves_cons : NoHalves (ps :: lines) ↔ NoHalf ps ∧ NoHalves lines := List.forall_mem_cons

lemma NoHalves.append {more : List (List Point)} (h : NoHalves lines) (h' : NoHalves more) :
    NoHalves (lines ++ more) := List.forall_mem_append.2 ⟨h, h'⟩

lemma NoHalves.getD (h : NoHalves lines) (n : Nat) (hps : NoHalf ps) :
    NoHalf (lines.getD n ps) := by
  rw [List.getD_eq_getElem?_getD]
  cases hn : lines[n]? with
  | none => exact hps
  | some line => exact h line (List.mem_of_getElem? hn)

lemma NoHalves.flatten (h : NoHalves lines) : NoHalf lines.flatten := by
  intro p hp
  obtain ⟨line, hline, hp⟩ := List.mem_flatten.1 hp
  exact h line hline p hp

/-! ### Breaking lines -/

lemma noHalves_wordsFrom (fuel : Nat) (h : NoHalf ps) : NoHalves (wordsFrom fuel ps) := by
  induction fuel generalizing ps with
  | zero => exact noHalves_nil
  | succ fuel ih =>
    have hbefore := h.span isBlank
    have hword := hbefore.2.span fun p => !isBlank p
    have hafter := hword.2.span isBlank
    rw [wordsFrom]
    dsimp only
    split
    · exact noHalves_nil
    · exact noHalves_cons.2 ⟨(hbefore.1.append hword.1).append hafter.1, ih hafter.2⟩

lemma noHalves_chop (columns used : Nat) {piece : List Point} (hpiece : NoHalf piece)
    (h : NoHalf ps) : NoHalves (chop columns used piece ps) := by
  induction ps generalizing used piece with
  | nil => exact noHalves_one (noHalf_reverse.2 hpiece)
  | cons p rest ih =>
    obtain ⟨hp, hrest⟩ := noHalf_cons.1 h
    rw [chop]
    split
    · exact noHalves_cons.2 ⟨noHalf_reverse.2 hpiece, ih _ (noHalf_cons.2 ⟨hp, noHalf_nil⟩) hrest⟩
    · exact ih _ (noHalf_cons.2 ⟨hp, hpiece⟩) hrest

namespace Filling

variable {f : Filling}

lemma noHalves_extend (hf : NoHalves f.lines) (h : NoHalf ps) : NoHalves (f.extend ps) := by
  unfold extend
  split
  · rename_i hlines
    obtain ⟨hline, hrest⟩ := noHalves_cons.1 (hlines ▸ hf)
    exact noHalves_cons.2 ⟨hline.append h, hrest⟩
  · exact noHalves_one h

lemma noHalves_newLine (hf : NoHalves f.lines) (h : NoHalf ps) : NoHalves (f.newLine ps) := by
  unfold newLine
  split
  · exact noHalves_one h
  · exact noHalves_cons.2 ⟨h, hf⟩

/-- Adding a word keeps to lines without halves. -/
lemma noHalves_add (columns : Nat) (overflow : Overflow) (hf : NoHalves f.lines) (h : NoHalf ps) :
    NoHalves (f.add columns overflow ps).lines := by
  have hpieces : ∀ (pieces : List (List Point)) (f : Filling), NoHalves pieces → NoHalves f.lines →
      NoHalves (pieces.foldl (fun f piece => ⟨f.newLine piece, width piece⟩) f).lines := by
    intro pieces
    induction pieces with
    | nil => exact fun f _ hf => hf
    | cons piece rest ih =>
      intro f h hf
      obtain ⟨hpiece, hrest⟩ := noHalves_cons.1 h
      exact ih _ hrest (noHalves_newLine hf hpiece)
  unfold add
  dsimp only
  split
  · exact noHalves_extend hf h
  · split
    · cases overflow with
      | ellipsis => exact noHalves_newLine hf h
      | fold => exact hpieces _ f (noHalves_chop columns 0 noHalf_nil h) hf
    · exact noHalves_newLine hf h

end Filling

lemma noHalves_breakLine (columns : Nat) (overflow : Overflow) (h : NoHalf ps) :
    NoHalves (breakLine columns overflow ps) := by
  have hfill : ∀ (ws : List (List Point)) (f : Filling), NoHalves ws → NoHalves f.lines →
      NoHalves (ws.foldl (Filling.add columns overflow) f).lines := by
    intro ws
    induction ws with
    | nil => exact fun f _ hf => hf
    | cons w rest ih =>
      intro f h hf
      obtain ⟨hw, hrest⟩ := noHalves_cons.1 h
      exact ih _ hrest (Filling.noHalves_add columns overflow hf hw)
  unfold breakLine
  split
  · exact noHalves_one h
  · have hwords : NoHalves (words ps) := noHalves_wordsFrom _ h
    intro line hline
    exact hfill _ .empty hwords (noHalves_one noHalf_nil) line (List.mem_reverse.1 hline)

/-! ### Fitting lines -/

lemma noHalf_cut (columns : Nat) (h : NoHalf ps) : NoHalf (cut columns ps) := by
  have hbetween : ∀ fuel low high, NoHalf (cutBetween ps columns fuel low high) := by
    intro fuel
    induction fuel with
    | zero => exact fun low _ => h.take low
    | succ fuel ih =>
      intro low high
      have hstart := h.take ((low + high) / 2 + 1)
      rw [cutBetween]
      split
      · exact (hstart.sublist (List.dropLast_sublist _)).append (noHalf_blanks 1)
      · split
        · exact hstart
        · split
          · exact ih _ _
          · exact ih _ _
  unfold cut
  split
  · exact noHalf_nil
  · exact hbetween _ _ _

lemma noHalf_fit (columns : Nat) (overflow : Overflow) (h : NoHalf ps) :
    NoHalf (fit columns overflow ps) := by
  unfold fit
  split
  · exact h
  · cases overflow with
    | fold => exact noHalf_cut columns h
    | ellipsis => exact (noHalf_cut _ h).append (noHalf_plain ['…'])

lemma noHalf_expandTabs (used : Nat) (h : NoHalf ps) : NoHalf (expandTabs used ps) := by
  induction ps generalizing used with
  | nil => exact noHalf_nil
  | cons p rest ih =>
    obtain ⟨hp, hrest⟩ := noHalf_cons.1 h
    rw [expandTabs]
    split
    · exact (noHalf_blanks _).append (ih _ hrest)
    · exact noHalf_cons.2 ⟨hp, ih _ hrest⟩

lemma noHalves_splitLines (h : NoHalf ps) : NoHalves (splitLines ps) := by
  induction ps with
  | nil => exact noHalves_one noHalf_nil
  | cons p rest ih =>
    obtain ⟨hp, hrest⟩ := noHalf_cons.1 h
    have hlines := ih hrest
    rw [splitLines]
    split
    · exact noHalves_cons.2 ⟨noHalf_nil, hlines⟩
    · split
      · rename_i hsplit
        obtain ⟨hline, hmore⟩ := noHalves_cons.1 (hsplit ▸ hlines)
        exact noHalves_cons.2 ⟨noHalf_cons.2 ⟨hp, hline⟩, hmore⟩
      · exact noHalves_one (noHalf_cons.2 ⟨hp, noHalf_nil⟩)

lemma noHalves_wrap (columns : Nat) (overflow : Overflow) (h : NoHalf ps) :
    NoHalves (wrap columns overflow ps) := by
  intro line hline
  obtain ⟨part, hpart, hline⟩ := List.mem_flatMap.1 hline
  obtain ⟨broken, hbroken, rfl⟩ := List.mem_map.1 hline
  have hpart := noHalf_expandTabs 0 (noHalves_splitLines h part hpart)
  exact noHalf_fit columns overflow
    ((noHalves_breakLine columns overflow hpart broken hbroken).take _)

/-! ### Tables -/

lemma noHalf_padTo (columns : Nat) (h : NoHalf ps) : NoHalf (padTo columns ps) :=
  h.append (noHalf_blanks _)

lemma noHalf_centered (columns : Nat) (h : NoHalf ps) : NoHalf (centered columns ps) :=
  noHalf_padTo columns ((noHalf_blanks _).append h)

namespace Table

lemma noHalf_intercalate {bar : Point} (hbar : bar.isHalf = false) (h : NoHalves lines) :
    NoHalf ([bar].intercalate lines) := by
  induction lines with
  | nil => exact noHalf_nil
  | cons line rest ih =>
    obtain ⟨hline, hrest⟩ := noHalves_cons.1 h
    cases rest with
    | nil => rwa [List.intercalate_singleton]
    | cons next more =>
      rw [List.intercalate_cons_cons]
      exact (hline.append (noHalf_cons.2 ⟨hbar, noHalf_nil⟩)).append (ih hrest)

lemma noHalves_cellLines (w : Nat) (h : NoHalf ps) : NoHalves (cellLines w ps) :=
  List.forall_mem_map.2 fun line hline =>
    ((noHalf_blanks 1).append (noHalf_padTo _ (noHalves_wrap _ _ h line hline))).append
      (noHalf_blanks 1)

lemma noHalves_rowLines {bar : Point} (hbar : bar.isHalf = false) (ws : List Nat)
    {row : List (List Point)} (h : NoHalves row) : NoHalves (rowLines bar ws row) := by
  have hcells : ∀ cell ∈ List.zipWith cellLines ws row, NoHalves cell := by
    intro cell hcell
    obtain ⟨i, hi, rfl⟩ := List.mem_iff_getElem.1 hcell
    rw [List.getElem_zipWith]
    exact noHalves_cellLines _ (h _ (List.getElem_mem _))
  refine List.forall_mem_map.2 fun i _ => noHalf_append.2 ⟨noHalf_cons.2 ⟨hbar, ?_⟩,
    noHalf_cons.2 ⟨hbar, noHalf_nil⟩⟩
  refine noHalf_intercalate hbar fun part hpart => ?_
  obtain ⟨j, hj, rfl⟩ := List.mem_iff_getElem.1 hpart
  rw [List.getElem_zipWith]
  exact (hcells _ (List.getElem_mem _)).getD i (noHalf_blanks _)

/-- The lines of a table have no halves where its cells have none. -/
lemma noHalves_lines {t : Table} (total : Nat) (htitle : NoHalf t.title)
    (hheader : NoHalves t.header) (hrows : ∀ row ∈ t.rows, NoHalves row) :
    NoHalves (t.lines total) := by
  have hrule (left line cross right : Char) :
      NoHalves [rule left line cross right (t.widths total)] := noHalves_one (noHalf_plain _)
  have hbody : NoHalves (t.rows.flatMap (rowLines '│' (t.widths total))) := by
    intro line hline
    obtain ⟨row, hrow, hline⟩ := List.mem_flatMap.1 hline
    exact noHalves_rowLines rfl _ (hrows row hrow) line hline
  refine NoHalves.append (.append (.append (.append ?_ ?_) (hrule _ _ _ _)) hbody) (hrule _ _ _ _)
  · exact noHalves_cons.2 ⟨noHalf_centered _ htitle, hrule _ _ _ _⟩
  · exact noHalves_rowLines rfl _ hheader

end Table

/-! ### Marks -/

namespace Emoji

lemma noHalf_named? {name picture : List Point} (h : named? name = some picture) :
    NoHalf picture := by
  obtain ⟨w, -, rfl⟩ := Option.map_eq_some_iff.1 h
  exact noHalf_plain _

lemma noHalf_ofCode? {code picture : List Point} (h : ofCode? code = some picture) :
    NoHalf picture := by
  unfold ofCode? at h
  split at h
  · obtain ⟨w, hw, rfl⟩ := Option.map_eq_some_iff.1 h
    exact (noHalf_named? hw).append (noHalf_plain [_])
  · exact noHalf_named? h

lemma noHalf_replaceFrom (fuel : Nat) (h : NoHalf ps) : NoHalf (replaceFrom fuel ps) := by
  induction fuel generalizing ps with
  | zero => exact h
  | succ fuel ih =>
    unfold replaceFrom
    split
    · exact noHalf_nil
    · rename_i rest
      obtain ⟨hcolon, hrest⟩ := noHalf_cons.1 h
      have hparts := hrest.span fun p => p != .char ':' && !Text.isBlank p.shown
      split
      · rename_i code behind hspan
        rw [hspan] at hparts
        refine NoHalf.append ?_ (ih (noHalf_cons.1 hparts.2).2)
        cases hcode : ofCode? code with
        | none => exact (noHalf_cons.2 ⟨hcolon, hparts.1⟩).append (noHalf_plain [':'])
        | some picture => exact noHalf_ofCode? hcode
      · exact noHalf_cons.2 ⟨hcolon, ih hrest⟩
    · obtain ⟨hp, hrest⟩ := noHalf_cons.1 h
      exact noHalf_cons.2 ⟨hp, ih hrest⟩

end Emoji

namespace Markup

def Part.text : Part → List Point
  | plain text => text
  | mark _ text => text

lemma noHalf_mark? {text behind : List Point} (h : NoHalf ps)
    (hmark : mark? ps = some (text, behind)) : NoHalf text ∧ NoHalf behind := by
  unfold mark? at hmark
  split at hmark
  · rename_i p rest
    obtain ⟨hbracket, hrest⟩ := noHalf_cons.1 h
    obtain ⟨hp, hrest⟩ := noHalf_cons.1 hrest
    split at hmark
    · have hparts := hrest.span fun p => p != .char ']' && p != .char '['
      split at hmark
      · rename_i hspan
        rw [hspan] at hparts
        cases hmark
        exact ⟨(noHalf_cons.2 ⟨hbracket, noHalf_cons.2 ⟨hp, hparts.1⟩⟩).append (noHalf_plain [']']),
          (noHalf_cons.1 hparts.2).2⟩
      · cases hmark
    · cases hmark
  · cases hmark

lemma noHalf_partsFrom (fuel : Nat) {before : List Point} (hbefore : NoHalf before)
    (h : NoHalf ps) : ∀ part ∈ partsFrom fuel before ps, NoHalf part.text := by
  induction fuel generalizing before ps with
  | zero => exact List.forall_mem_singleton.2 (noHalf_reverse.2 hbefore)
  | succ fuel ih =>
    have hslashes := h.span (· == .char '\\')
    rw [partsFrom]
    dsimp only
    split
    · rename_i text behind hmark
      obtain ⟨htext, hbehind⟩ := noHalf_mark? hslashes.2 hmark
      exact List.forall_mem_cons.2 ⟨noHalf_reverse.2 hbefore, List.forall_mem_cons.2 ⟨htext,
        ih noHalf_nil hbehind⟩⟩
    · split
      · exact List.forall_mem_singleton.2 (noHalf_reverse.2 (hslashes.1.append hbefore))
      · rename_i p rest hrest
        obtain ⟨hp, hrest⟩ := noHalf_cons.1 (hrest ▸ hslashes.2)
        exact ih (noHalf_cons.2 ⟨hp, hslashes.1.append hbefore⟩) hrest

lemma noHalf_parts (h : NoHalf ps) : ∀ part ∈ parts ps, NoHalf part.text :=
  noHalf_partsFrom _ noHalf_nil h

lemma noHalf_backslashes (count : Nat) : NoHalf (backslashes count) := noHalf_replicate count '\\'

lemma noHalf_guardEnd (h : NoHalf ps) : NoHalf (guardEnd ps) := by
  unfold guardEnd
  split
  · exact h
  · exact h.append (noHalf_backslashes 1)
  · exact h

lemma noHalf_escape (h : NoHalf ps) : NoHalf (escape ps) := by
  refine noHalf_guardEnd fun p hp => ?_
  obtain ⟨part, hpart, hp⟩ := List.mem_flatMap.1 hp
  have htext := noHalf_parts h part hpart
  cases part with
  | plain text => exact htext p hp
  | mark count text => exact (noHalf_backslashes _).append htext p hp

lemma noHalf_withoutBackslashes (h : NoHalf ps) : NoHalf (withoutBackslashes ps) := by
  fun_induction withoutBackslashes ps with
  | case1 rest ih => exact noHalf_cons.2 ⟨rfl, ih (noHalf_cons.1 (noHalf_cons.1 h).2).2⟩
  | case2 p rest _ ih => exact noHalf_cons.2 ⟨(noHalf_cons.1 h).1, ih (noHalf_cons.1 h).2⟩
  | case3 => exact h

lemma noHalf_showPlain (h : NoHalf ps) : NoHalf (showPlain ps) :=
  (Emoji.noHalf_replaceFrom _ (noHalf_withoutBackslashes h)).sublist List.filter_sublist

/-- What shows of a text with marks has no halves where the text has none. -/
lemma noHalf_shown (h : NoHalf ps) : NoHalf (shown ps) := by
  intro p hp
  obtain ⟨part, hpart, hp⟩ := List.mem_flatMap.1 hp
  have htext := noHalf_parts h part hpart
  cases part with
  | plain text => exact noHalf_showPlain htext p hp
  | mark count text =>
    refine (noHalf_backslashes _).append (?_ : NoHalf _) p hp
    split
    · exact noHalf_nil
    · exact noHalf_showPlain htext

lemma noHalf_styled (style : String) (h : NoHalf ps) : NoHalf (styled style ps) :=
  ((noHalf_plain _).append h).append (noHalf_plain _)

end Markup

end Terminal

/-! ### The output of a command -/

namespace Command

open Terminal Value

lemma hasAnswer_printed {lines : List (List Point)} (h : NoHalves lines) :
    HasAnswer (printed lines) := by
  have hall : lines.all (·.all (!·.isHalf)) = true :=
    List.all_eq_true.2 fun line hline => List.all_eq_true.2 fun p hp => by
      rw [h line hline p hp]
      rfl
  rw [printed, if_pos hall]
  exact hasAnswer_ok _

lemma noHalves_marked {ps : List Point} (h : NoHalf ps) : NoHalves (marked ps) :=
  noHalves_wrap _ _ (Markup.noHalf_shown h)

lemma noHalf_escaped {t : Text} (h : t.isPlain = true) : NoHalf (escaped t) :=
  Markup.noHalf_escape (noHalf_points h)

/-- The message of an error can be printed where it is plain. -/
lemma noHalves_errorOutput {message : Text} (h : message.isPlain = true) :
    NoHalves (errorOutput message) :=
  noHalves_marked (Markup.noHalf_styled _ ((noHalf_text _).append (noHalf_escaped h)))

lemma noHalf_validLine (document : String) : NoHalf (validLine document) :=
  Markup.noHalf_styled _ (((noHalf_text _).append (noHalf_escaped rfl)).append (noHalf_text _))

lemma noHalf_invalidLine (document : String) : NoHalf (invalidLine document) :=
  Markup.noHalf_styled _ (((noHalf_text _).append (noHalf_escaped rfl)).append (noHalf_text _))

lemma noHalf_nothingReported : NoHalf nothingReported :=
  (noHalf_text _).append (Markup.noHalf_styled _ (noHalf_text _))

lemma noHalf_cell {t : Text} (h : t.isPlain = true) : NoHalf (cell t) :=
  Markup.noHalf_shown (noHalf_escaped h)

/-- The lines of violations can be printed where they tell plain strings. -/
lemma noHalves_violationOutput (document : String) (most : Nat) {vs : List Violation}
    (h : ∀ v ∈ vs, HoldsOf isPlainString v.values) :
    NoHalves (violationOutput document most vs) := by
  have hrows : ∀ row ∈ (violationTable vs.length (vs.take most)).rows, NoHalves row := by
    refine List.forall_mem_map.2 fun v hv => ?_
    have hv := (holdsOf_cons.1 (holdsOf_cons.1 (h v (List.mem_of_mem_take hv))).2).2
    obtain ⟨hreason, hplace⟩ := holdsOf_append.1 hv
    obtain ⟨hschema, hvalue⟩ := holdsOf_append.1 hplace
    exact noHalves_cons.2 ⟨noHalf_cell (Location.isPlain_text hschema),
      noHalves_cons.2 ⟨noHalf_cell (Location.isPlain_text hvalue),
        noHalves_one (noHalf_cell (Reason.isPlain_message hreason))⟩⟩
  have hheader : NoHalves (violationTable vs.length (vs.take most)).header :=
    noHalves_cons.2 ⟨noHalf_text _, noHalves_cons.2 ⟨noHalf_text _, noHalves_one (noHalf_text _)⟩⟩
  refine ((noHalves_marked (noHalf_invalidLine document)).append
    (Table.noHalves_lines columns (noHalf_text _) hheader hrows)).append ?_
  split
  · exact noHalves_nil
  · exact noHalves_marked (Markup.noHalf_styled _ (noHalf_text _))

/-- JSON text can be printed where the strings in raw quotes are plain. -/
lemma noHalves_jsonOutput {q : Quoting} {v : Value} (h : v.IsQuotable q) :
    AnswersAre NoHalves (jsonOutput q v) :=
  .map (isPlain_indented q 0 v h) fun _ ht => noHalves_splitLines (noHalf_points ht)

end Command

end JsonSchema
