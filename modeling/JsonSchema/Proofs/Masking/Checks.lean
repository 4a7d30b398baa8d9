import JsonSchema.Proofs.Checks
import JsonSchema.Proofs.Follows
import JsonSchema.Proofs.Insertion
import JsonSchema.Proofs.Keyword
import Mathlib.Data.List.Nodup
import Mathlib.Data.List.Perm.Basic

/-!
What a check reports when a node has one keyword more.

Nothing is lost and nothing changes places, and what is gained comes from the checks that read the
keyword: one finding for each of them at most, but for the schema of names, which may refuse
several names for several reasons.

Each check reads one keyword, and a run of checks gains what its checks gain.
-/

namespace JsonSchema

/-- The list `ys` is the list `xs` with some more elements put in, which come from reading the
keyword `name` as one of `names`. Counting the names makes gains add up along a run of checks. -/
structure Gains {α : Type} (name : String) (names : List String) (p : α → Prop)
    (xs ys : List α) : Prop where
  kept : xs.Sublist ys
  gained : ∃ further, ys.Perm (xs ++ further) ∧ (∀ a ∈ further, name ∈ names ∧ p a) ∧
    (name ≠ "propertyNames" → further.length ≤ names.count name)

namespace Gains

variable {α β : Type} {name : String} {names others : List String} {p : α → Prop}
  {xs ys us vs : List α}

lemma refl (xs : List α) : Gains name names p xs xs :=
  ⟨.refl xs, [], by simp, by simp, by simp⟩

lemma of_nil (h : ∀ a ∈ ys, name ∈ names ∧ p a)
    (hl : name ≠ "propertyNames" → ys.length ≤ names.count name) : Gains name names p [] ys :=
  ⟨List.nil_sublist ys, ys, by simp, h, hl⟩

lemma append (h : Gains name names p xs ys) (h' : Gains name others p us vs) :
    Gains name (names ++ others) p (xs ++ us) (ys ++ vs) := by
  obtain ⟨hkept, fs, hfs, hp, hl⟩ := h
  obtain ⟨hkept', gs, hgs, hp', hl'⟩ := h'
  refine ⟨hkept.append hkept', fs ++ gs, ?_, ?_, ?_⟩
  · have hswap : (xs ++ fs ++ (us ++ gs)).Perm (xs ++ us ++ (fs ++ gs)) := by
      simp only [List.append_assoc]
      exact .append_left xs (List.perm_append_comm_assoc fs us gs)
    exact (hfs.append hgs).trans hswap
  · intro a ha
    rcases List.mem_append.1 ha with ha | ha
    · exact ⟨List.mem_append_left _ (hp a ha).1, (hp a ha).2⟩
    · exact ⟨List.mem_append_right _ (hp' a ha).1, (hp' a ha).2⟩
  · intro hn
    rw [List.length_append, List.count_append]
    exact Nat.add_le_add (hl hn) (hl' hn)

lemma append_same (h : Gains name names p xs ys) (zs : List α) :
    Gains name names p (xs ++ zs) (ys ++ zs) := by
  have hzs : Gains name [] p zs zs := refl zs
  simpa using h.append hzs

lemma same_append (h : Gains name names p xs ys) (zs : List α) :
    Gains name names p (zs ++ xs) (zs ++ ys) := by
  have hzs : Gains name [] p zs zs := refl zs
  exact hzs.append h

/-- More checks that report nothing. -/
lemma more (h : Gains name names p xs ys) (others : List String) :
    Gains name (names ++ others) p xs ys := by
  have hnil : Gains name others p [] [] := refl []
  simpa using h.append hnil

lemma map {q : β → Prop} {f : α → β} (h : Gains name names p xs ys)
    (hf : ∀ a, name ∈ names → p a → q (f a)) : Gains name names q (xs.map f) (ys.map f) := by
  obtain ⟨hkept, fs, hfs, hp, hl⟩ := h
  refine ⟨hkept.map f, fs.map f, by simpa using hfs.map f, ?_, by simpa using hl⟩
  intro b hb
  obtain ⟨a, ha, rfl⟩ := List.mem_map.1 hb
  exact ⟨(hp a ha).1, hf a (hp a ha).1 (hp a ha).2⟩

lemma eq_nil (h : Gains name names p xs []) : xs = [] := List.sublist_nil.1 h.kept

end Gains

namespace Entries

lemma named?_insert (keywords : Entries) (name other : String) (x : Value) :
    (keywords.insert (.string name) x).named? other =
      if name = other then some x else keywords.named? other := by
  rw [named?, get?_insert rfl]
  by_cases h : name = other <;> simp [h, named?]

/-- Another keyword keeps its value. -/
lemma named?_insert_of_ne {name other : String} (h : name ≠ other) (keywords : Entries)
    (x : Value) : (keywords.insert (.string name) x).named? other = keywords.named? other := by
  rw [named?_insert, if_neg h]

lemma defined?_insert_of_ne {name other : String} (h : name ≠ other) (keywords : Entries)
    (x : Value) :
    (keywords.insert (.string name) x).defined? other = keywords.defined? other := by
  rw [defined?, named?_insert_of_ne h, defined?]

lemma children_insert_of_ne {name other : String} (h : name ≠ other) (keywords : Entries)
    (x : Value) :
    (keywords.insert (.string name) x).children other = keywords.children other := by
  rw [children, named?_insert_of_ne h, children]

end Entries

namespace Validation

/-- A check that reads some keywords and has at most one reason for each of them: with one keyword
more it gains what comes from this keyword. -/
def Reads (names : List String) (check : Entries → Reasons) : Prop :=
  ∀ ⦃keywords : Entries⦄ ⦃name : String⦄ (x : Value), keywords.named? name = none →
    Follows (Gains name names fun _ => True) (check keywords)
      (check (keywords.insert (.string name) x))

/-! ### Checks of one keyword -/

/-- A check without an answer of several reasons. -/
def AtMostOne (check : Reasons) : Prop := ∀ reasons, check = .ok reasons → reasons.length ≤ 1

lemma atMostOne_nil : AtMostOne (.ok []) := by
  rintro _ ⟨⟩
  simp

lemma atMostOne_error (f : Fault) : AtMostOne (.error f) := nofun

lemma atMostOne_reportIf (failed : Bool) (reason : Reason) :
    AtMostOne (reportIf failed reason) := by
  intro reasons h
  rw [reportIf_eq_ok h]
  split <;> simp

lemma AtMostOne.bind {α : Type} {x : Except Fault α} {f : α → Reasons}
    (h : ∀ a, AtMostOne (f a)) : AtMostOne (x >>= f) := by
  intro reasons hr
  obtain ⟨a, -, hr⟩ := except_bind_eq_ok.1 hr
  exact h a reasons hr

/-- A check that depends on one keyword alone and has no reasons without it. -/
lemma reads_one {read : String} {check : Entries → Reasons}
    (hnone : ∀ {keywords : Entries}, keywords.named? read = none → check keywords = .ok [])
    (hsame : ∀ {keywords keywords' : Entries}, keywords.named? read = keywords'.named? read →
      check keywords = check keywords')
    (hone : ∀ keywords, AtMostOne (check keywords)) : Reads [read] check := by
  intro keywords name x ha
  by_cases hname : name = read
  · subst hname
    intro reasons hr
    have hlength : reasons.length ≤ 1 := hone _ reasons hr
    exact ⟨[], hnone ha, .of_nil (fun _ _ => by simp) fun _ => by simpa using hlength⟩
  · rw [hsame (Entries.named?_insert_of_ne hname keywords x)]
    exact .refl .refl _

lemma reads_whenGiven (read : String) {f : Value → Reasons} (hf : ∀ v, AtMostOne (f v)) :
    Reads [read] (whenGiven · read f) := by
  refine reads_one (fun h => by simp [whenGiven, Entries.given?, h])
    (fun h => by simp only [whenGiven, Entries.given?, h]) fun keywords => ?_
  unfold whenGiven
  split
  · exact hf _
  · exact atMostOne_nil

lemma reads_const (form : LiteralForm) (value : Value) :
    Reads ["const"] (constReasons · form value) := by
  refine reads_one (fun h => by simp [constReasons, Entries.defined?, h])
    (fun h => by simp only [constReasons, Entries.defined?, h]) fun keywords => ?_
  unfold constReasons
  split
  · exact atMostOne_reportIf _ _
  · exact atMostOne_nil

lemma reads_enum (form : LiteralForm) (value : Value) :
    Reads ["enum"] (enumReasons · form value) :=
  reads_whenGiven "enum" fun _ => .bind fun _ => atMostOne_reportIf _ _

lemma reads_minLength (text : Text) : Reads ["minLength"] (minLengthReasons · text) :=
  reads_whenGiven "minLength" fun _ => .bind fun _ => atMostOne_reportIf _ _

lemma reads_maxLength (text : Text) : Reads ["maxLength"] (maxLengthReasons · text) :=
  reads_whenGiven "maxLength" fun _ => .bind fun _ => atMostOne_reportIf _ _

lemma reads_pattern (text : Text) (location : Location) :
    Reads ["pattern"] (patternReasons · text location) :=
  reads_whenGiven "pattern" fun _ => .bind fun _ => atMostOne_reportIf _ _

lemma reads_bound (x : Number) (bound : Bound) :
    Reads [bound.keyword] (boundReasons · x bound) :=
  reads_whenGiven bound.keyword fun _ => .bind fun _ => atMostOne_reportIf _ _

lemma reads_multipleOf (x : Number) : Reads ["multipleOf"] (multipleReasons · x) := by
  refine reads_whenGiven "multipleOf" fun divisor => ?_
  split
  · exact atMostOne_reportIf _ _
  · split
    · exact atMostOne_error _
    · exact atMostOne_reportIf _ _

lemma reads_required (members : Entries) : Reads ["required"] (requiredReasons · members) := by
  refine reads_one (fun h => by simp [requiredReasons, h])
    (fun h => by simp only [requiredReasons, h]) fun keywords => ?_
  unfold requiredReasons
  split
  · exact atMostOne_nil
  · refine .bind fun names => .bind fun missing => ?_
    split
    · exact atMostOne_nil
    · refine .bind fun texts => ?_
      rintro _ ⟨⟩
      simp

lemma reads_minProperties (members : Entries) :
    Reads ["minProperties"] (minCountReasons · members) := by
  refine reads_one (fun h => by simp [minCountReasons, h])
    (fun h => by simp only [minCountReasons, h]) fun keywords => ?_
  unfold minCountReasons
  split
  · exact atMostOne_nil
  · exact .bind fun _ => atMostOne_reportIf _ _

lemma reads_maxProperties (members : Entries) :
    Reads ["maxProperties"] (maxCountReasons · members) :=
  reads_whenGiven "maxProperties" fun _ => .bind fun _ => atMostOne_reportIf _ _

/-! ### Checks one after another -/

lemma reads_guard (expected : JsonType) (form : LiteralForm) (value : Value) :
    Reads ["const", "enum"] (guardReasons · expected form value) := by
  intro keywords name x ha
  refine (reads_const form value x ha).bind fun const const' hconst => ?_
  refine (reads_enum form value x ha).bind fun enum enum' henum => .pure ?_
  exact (hconst.same_append _).append henum

lemma reads_text (text : Text) (location : Location) :
    Reads ["minLength", "maxLength", "pattern"] (textReasons · text location) := by
  intro keywords name x ha
  refine (reads_minLength text x ha).bind fun short short' hshort => ?_
  refine (reads_maxLength text x ha).bind fun long long' hlong => ?_
  refine (reads_pattern text location x ha).bind fun pattern pattern' hpattern => .pure ?_
  exact (hshort.append hlong).append hpattern

lemma reads_string (value : Value) (location : Location) :
    Reads textKeywords (stringReasons · value location) := by
  intro keywords name x ha
  refine (reads_guard .string .quoted value x ha).bind fun guard guard' hguard => ?_
  cases value with
  | string text =>
    exact (reads_text text location x ha).bind fun _ _ htext => .pure (hguard.append htext)
  | _ => exact .pure (hguard.more _)

/-- The keywords that the checks of numbers read, in their order. -/
def numberKeywords : List String :=
  ["const", "enum", "minimum", "exclusiveMinimum", "maximum", "exclusiveMaximum", "multipleOf"]

lemma reads_magnitude (n : Number) :
    Reads ["minimum", "exclusiveMinimum", "maximum", "exclusiveMaximum", "multipleOf"]
      (magnitudeReasons · n) := by
  intro keywords name x ha
  refine (reads_bound n .minimum x ha).bind fun _ _ hmin => ?_
  refine (reads_bound n .exclusiveMinimum x ha).bind fun _ _ hemin => ?_
  refine (reads_bound n .maximum x ha).bind fun _ _ hmax => ?_
  refine (reads_bound n .exclusiveMaximum x ha).bind fun _ _ hemax => ?_
  refine (reads_multipleOf n x ha).bind fun _ _ hmultiple => .pure ?_
  exact (((hmin.append hemin).append hmax).append hemax).append hmultiple

lemma reads_number (value : Value) : Reads numberKeywords (numberReasons · value) := by
  intro keywords name x ha
  refine (reads_guard .number .plain value x ha).bind fun guard guard' hguard => ?_
  cases value with
  | number n =>
    exact (reads_magnitude n x ha).bind fun _ _ hmagnitude => .pure (hguard.append hmagnitude)
  | _ => exact .pure (hguard.more _)

lemma reads_integer (value : Value) : Reads numberKeywords (integerReasons · value) := by
  intro keywords name x ha
  refine (reads_number value x ha).bind fun reasons reasons' hreasons => ?_
  cases value with
  | number n =>
    refine .pure ?_
    split
    · exact hreasons
    · exact hreasons.same_append [.notInteger]
  | _ => exact .pure hreasons

end Validation

end JsonSchema
