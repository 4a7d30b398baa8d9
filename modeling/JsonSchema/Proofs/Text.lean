import JsonSchema.Text.Quoted
import Mathlib.Tactic.Common

/-!
Texts and the strings among them.

A text is plain if no half of a pair is among its code points. Then it is a string, and the
characters that stand for its code points are its own.
-/

namespace JsonSchema.Text

variable {t u : Text}

/-! ### Characters -/

@[simp] lemma chars_append (t u : Text) : (t ++ u).chars = t.chars ++ u.chars := by
  simp [chars]

lemma shown_quotePoint (p : Point) : (quotePoint p).map Point.shown = quoteChar p.shown := by
  cases p with
  | char c =>
    rw [quotePoint, plain, List.map_map]
    exact List.map_id _
  | half => rfl

lemma chars_inQuotes (t : Text) :
    t.inQuotes.chars = '"' :: t.chars.flatMap quoteChar ++ ['"'] := by
  have hpoints : (ofPoints (t.points.flatMap quotePoint)).chars = t.chars.flatMap quoteChar := by
    rw [chars, points_ofPoints, List.map_flatMap, chars, List.flatMap_map]
    exact congrArg List.flatten (List.map_congr_left fun p _ => shown_quotePoint p)
  simp [inQuotes, hpoints]

/-! ### Plain texts -/

lemma isPlain_iff : t.isPlain = true ↔ ∀ p ∈ t.points, p.isHalf = false := by
  obtain ⟨s, rest⟩ := t
  cases rest with
  | nil => simp [isPlain, points, plain, Point.isHalf]
  | cons r rest =>
    constructor
    · intro h
      exact absurd h Bool.false_ne_true
    · intro h
      cases h (.half r.1) (by simp [points])

lemma isPlain_append : (t ++ u).isPlain = true ↔ t.isPlain = true ∧ u.isPlain = true := by
  simp only [isPlain_iff, points_append, List.mem_append, or_imp, forall_and]

lemma isPlain_between {left right : String} (h : t.isPlain = true) :
    (ofString left ++ t ++ ofString right).isPlain = true :=
  isPlain_append.2 ⟨isPlain_append.2 ⟨rfl, h⟩, rfl⟩

lemma isPlain_join {separator : Text} {ts : List Text} (hs : separator.isPlain = true)
    (h : ∀ t ∈ ts, t.isPlain = true) : (join separator ts).isPlain = true := by
  induction ts with
  | nil => rfl
  | cons t rest ih =>
    obtain ⟨ht, hrest⟩ := List.forall_mem_cons.1 h
    cases rest with
    | nil => exact ht
    | cons u more => exact isPlain_append.2 ⟨isPlain_append.2 ⟨ht, hs⟩, ih hrest⟩

lemma isPlain_inQuotes (h : t.isPlain = true) : t.inQuotes.isPlain = true := by
  rw [isPlain_iff] at h ⊢
  intro p hp
  simp only [inQuotes, points_append, points_ofString, points_ofPoints, List.mem_append,
    List.mem_flatMap] at hp
  have hchar {cs : List Char} (hp : p ∈ plain cs) : p.isHalf = false := by
    obtain ⟨c, -, rfl⟩ := List.mem_map.1 hp
    rfl
  rcases hp with (hp | ⟨q, hq, hp⟩) | hp
  · exact hchar hp
  · cases q with
    | char c => exact hchar hp
    | half => cases h _ hq
  · exact hchar hp

/-- A plain text is the string of its characters. -/
lemma eq_of_isPlain (h : t.isPlain = true) : t = ofString (String.ofList t.chars) := by
  obtain ⟨s, rest⟩ := t
  obtain rfl : rest = [] := List.isEmpty_iff.1 h
  rw [show chars ⟨s, []⟩ = s.toList from chars_ofString s, String.ofList_toList]
  rfl

lemma toList_of_isPlain (h : t.isPlain = true) : t.toString.toList = t.chars := by
  rw [eq_of_isPlain h, chars_ofString]
  rfl

lemma ofPoints_plain_of_isPlain (h : t.isPlain = true) : ofPoints (plain t.chars) = t := by
  rw [eq_of_isPlain h, chars_ofString, ← points_ofString, ofPoints_points]

end JsonSchema.Text
