import JsonSchema.Validation.Place
import JsonSchema.Proofs.Keys

/-!
Paths: the steps from a schema or a value to a part of it.

A spot is a schema and a value together with the places of both. One spot reaches another one when
the steps that lengthen the places are the steps that lead to the schema and to the value.
-/

namespace JsonSchema

namespace Value

/-- The part one step inside a value. -/
def child? : Value → Step → Option Value
  | object entries, .member key => Entries.get? entries key
  | array _ items, .element index => items[index]?
  | _, _ => none

/-- The part at the end of a path. -/
def follow (v : Value) : List Step → Option Value
  | [] => some v
  | step :: rest => (v.child? step).bind (follow · rest)

@[simp] lemma follow_nil (v : Value) : v.follow [] = some v := rfl

lemma follow_cons (v : Value) (step : Step) (rest : List Step) :
    v.follow (step :: rest) = (v.child? step).bind (follow · rest) := rfl

@[simp] lemma child?_member (entries : Entries) (key : Value) :
    (object entries).child? (.member key) = entries.get? key := rfl

@[simp] lemma child?_keyword (keywords : Entries) (name : String) :
    (object keywords).child? (.member (.string name)) = keywords.named? name := rfl

@[simp] lemma child?_element (kind : ArrayKind) (items : List Value) (index : Nat) :
    (array kind items).child? (.element index) = items[index]? := rfl

lemma follow_keyword {keywords : Entries} {name : String} {v : Value}
    (h : keywords.named? name = some v) :
    (object keywords).follow [.member (.string name)] = some v := by
  rw [follow_cons, child?_keyword, h]
  rfl

lemma follow_append (v : Value) (steps more : List Step) :
    v.follow (steps ++ more) = (v.follow steps).bind (follow · more) := by
  induction steps generalizing v with
  | nil => rfl
  | cons step rest ih =>
    rw [List.cons_append, follow_cons, follow_cons, Option.bind_assoc]
    congr 1
    funext w
    exact ih w

lemma depth_of_child? {v w : Value} {step : Step} (h : v.child? step = some w) :
    w.depth < v.depth := by
  unfold child? at h
  split at h
  · obtain ⟨k, hm, -⟩ := Entries.mem_of_get? h
    have := depth_le_depthOfEntries hm
    simp only [depth]
    omega
  · have := depth_le_depthOfItems (List.mem_of_getElem? h)
    simp only [depth]
    omega
  · cases h

lemma depth_of_follow {v w : Value} {steps : List Step} (h : v.follow steps = some w)
    (hne : steps ≠ []) : w.depth < v.depth := by
  induction steps generalizing v with
  | nil => exact absurd rfl hne
  | cons step rest ih =>
    obtain ⟨u, hu, h⟩ := Option.bind_eq_some_iff.1 h
    have hlt := depth_of_child? hu
    cases rest with
    | nil => cases h; exact hlt
    | cons next rest => exact Nat.lt_trans (ih h (by simp)) hlt

/-- All objects in a value, at the end of any path, are so. -/
def EveryObject (P : Entries → Prop) (v : Value) : Prop :=
  ∀ steps entries, v.follow steps = some (.object entries) → P entries

namespace EveryObject

variable {P : Entries → Prop}

lemma here {entries : Entries} (h : EveryObject P (.object entries)) : P entries := h [] entries rfl

lemma of_follow {v w : Value} {steps : List Step} (h : EveryObject P v)
    (hf : v.follow steps = some w) : EveryObject P w := by
  intro more entries hm
  refine h (steps ++ more) entries ?_
  rw [follow_append, hf]
  exact hm

lemma of_children {v : Value} (hv : ∀ entries, v = .object entries → P entries)
    (hc : ∀ step w, v.child? step = some w → EveryObject P w) : EveryObject P v := by
  intro steps entries h
  cases steps with
  | nil => exact hv entries (Option.some.inj h)
  | cons step rest =>
    obtain ⟨w, hw, h⟩ := Option.bind_eq_some_iff.1 h
    exact hc step w hw rest entries h

lemma leaf {v : Value} (h : v.depth = 0) : EveryObject P v := by
  refine of_children ?_ fun step w hw => ?_
  · rintro entries rfl
    simp [depth] at h
  · have := depth_of_child? hw
    omega

lemma object {entries : Entries} (h : P entries) (hs : ∀ e ∈ entries, EveryObject P e.2) :
    EveryObject P (.object entries) := by
  refine of_children ?_ fun step w hw => ?_
  · rintro _ ⟨⟩
    exact h
  · cases step with
    | member key =>
      obtain ⟨k, hm, -⟩ := Entries.mem_of_get? hw
      exact hs _ hm
    | element index => cases hw

lemma array {kind : ArrayKind} {items : List Value} (hs : ∀ v ∈ items, EveryObject P v) :
    EveryObject P (.array kind items) := by
  refine of_children (fun _ => nofun) fun step w hw => ?_
  cases step with
  | member key => cases hw
  | element index => exact hs w (List.mem_of_getElem? hw)

end EveryObject

end Value

/-! ### Locations -/

/-- The steps of a path, each behind a slash. -/
def pathText : List Step → Text
  | [] => ""
  | step :: rest => "/" ++ step.text ++ pathText rest

lemma eq_nil_of_pathText {steps : List Step} (h : pathText steps = "") : steps = [] := by
  cases steps with
  | nil => rfl
  | cons step rest => simp [pathText] at h

namespace Location

def extend (location : Location) (steps : List Step) : Location :=
  { location with steps := location.steps ++ steps }

lemma extend_extend (location : Location) (steps more : List Step) :
    (location.extend steps).extend more = location.extend (steps ++ more) := by
  simp [extend, List.append_assoc]

lemma text_extend (location : Location) (steps : List Step) :
    (location.extend steps).text = location.text ++ pathText steps := by
  have hfold : ∀ s : Text, steps.foldl (fun (s : Text) step => s ++ "/" ++ step.text) s =
      s ++ pathText steps := by
    induction steps with
    | nil => intro s; simp [pathText]
    | cons step rest ih =>
      intro s
      rw [List.foldl_cons, ih, pathText, Text.append_assoc, Text.append_assoc,
        Text.append_assoc]
  rw [text, extend, List.foldl_append, hfold]
  rfl

end Location

namespace Place

def extend (place : Place) (inSchema inValue : List Step) : Place :=
  ⟨place.schema.extend inSchema, place.value.extend inValue⟩

lemma extend_extend (place : Place) (q p q' p' : List Step) :
    (place.extend q p).extend q' p' = place.extend (q ++ q') (p ++ p') := by
  simp [extend, Location.extend_extend]

end Place

/-! ### Spots -/

/-- A schema, a value, and the places of both. -/
structure Spot where
  schema : Value
  value : Value
  place : Place

namespace Spot

/-- One spot is reached from another one, by as many steps in the schema and in the value as the
places tell. -/
def Reaches (s t : Spot) : Prop :=
  ∃ q p, s.schema.follow q = some t.schema ∧ s.value.follow p = some t.value ∧
    t.place = s.place.extend q p

/-- One spot is reached from another one, and its schema stands below the other schema. -/
def Below (s t : Spot) : Prop :=
  ∃ q p, q ≠ [] ∧ s.schema.follow q = some t.schema ∧ s.value.follow p = some t.value ∧
    t.place = s.place.extend q p

lemma Reaches.refl (s : Spot) : s.Reaches s :=
  ⟨[], [], rfl, rfl, by simp [Place.extend, Location.extend]⟩

lemma Reaches.trans {s t u : Spot} (hst : s.Reaches t) (htu : t.Reaches u) : s.Reaches u := by
  obtain ⟨q, p, hq, hp, ht⟩ := hst
  obtain ⟨q', p', hq', hp', hu⟩ := htu
  refine ⟨q ++ q', p ++ p', ?_, ?_, ?_⟩
  · rw [Value.follow_append, hq]; exact hq'
  · rw [Value.follow_append, hp]; exact hp'
  · rw [hu, ht, Place.extend_extend]

lemma Below.reaches {s t : Spot} (h : s.Below t) : s.Reaches t := by
  obtain ⟨q, p, -, h⟩ := h
  exact ⟨q, p, h⟩

lemma Below.depth_lt {s t : Spot} (h : s.Below t) : t.schema.depth < s.schema.depth := by
  obtain ⟨q, p, hne, hq, -⟩ := h
  exact Value.depth_of_follow hq hne

/-- Every object is one of different keys, and those in the value are strings. -/
structure WellKeyed (s : Spot) : Prop where
  schema : s.schema.EveryObject Entries.HasDistinctKeys
  value : s.value.EveryObject fun members => members.HasStringKeys ∧ members.HasDistinctKeys

lemma WellKeyed.of_reaches {s t : Spot} (h : s.WellKeyed) (ht : s.Reaches t) : t.WellKeyed := by
  obtain ⟨q, p, hq, hp, -⟩ := ht
  exact ⟨h.schema.of_follow hq, h.value.of_follow hp⟩

end Spot

end JsonSchema
