import JsonSchema.Proofs.Content.Checks

/-!
Verdicts on alike values, and the checks of arrays.

Two verdicts agree if both accept or both refuse, and if neither or both of them name violations:
a list of types refuses without naming any, and an object does not notice that. Where the schemas
have their members in the same order, agreeing verdicts accept alike results.
-/

namespace JsonSchema

open Value

/-- Both accept, with alike results if the schemas have the same order, or both refuse, with or
without violations. -/
structure Verdict.Agrees (sameOrder : Prop) (a b : Verdict) : Prop where
  isValid : a.isValid = b.isValid
  clean : a.violations = [] ↔ b.violations = []
  result : sameOrder → ∀ v w, a = .valid v → b = .valid w → Alike v w

namespace Verdict.Agrees

variable {sameOrder : Prop}

lemma valid {v w : Value} (h : sameOrder → Alike v w) :
    Verdict.Agrees sameOrder (.valid v) (.valid w) where
  isValid := rfl
  clean := Iff.rfl
  result ho _ _ hv hw := by
    cases hv
    cases hw
    exact h ho

lemma invalid {vs ws : List Violation} (h : vs = [] ↔ ws = []) :
    Verdict.Agrees sameOrder (.invalid vs) (.invalid ws) where
  isValid := rfl
  clean := h
  result _ := nofun

lemma verdictOf {vs ws : List Violation} {v w : Value} (h : vs = [] ↔ ws = [])
    (hr : sameOrder → vs = [] → ws = [] → Alike v w) :
    Verdict.Agrees sameOrder (Validation.verdictOf v vs) (Validation.verdictOf w ws) := by
  cases vs with
  | nil =>
    obtain rfl := h.1 rfl
    exact valid fun ho => hr ho rfl rfl
  | cons => cases ws with
    | nil => cases h.2 rfl
    | cons => exact invalid (by simp)

lemma mono {weaker : Prop} {a b : Verdict} (h : Verdict.Agrees weaker a b)
    (hw : sameOrder → weaker) : Verdict.Agrees sameOrder a b :=
  ⟨h.isValid, h.clean, fun ho => h.result (hw ho)⟩

lemma elementResult {a b : Verdict} (h : Verdict.Agrees sameOrder a b) (ho : sameOrder) :
    Alike (Validation.elementResult a) (Validation.elementResult b) := by
  have hnull : Alike null null := ⟨rfl, rfl, by simp [jsonEqual]⟩
  cases a with
  | valid v =>
    cases b with
    | valid w =>
      have hvw := h.result ho v w rfl rfl
      simp only [Validation.elementResult, hvw.isUndefined_eq]
      split
      · exact hnull
      · exact hvw
    | invalid ws => cases h.isValid
  | invalid vs =>
    cases b with
    | valid w => cases h.isValid
    | invalid ws => exact hnull

end Verdict.Agrees

namespace Validation

/-- Both validations end in a fault, or their verdicts agree. -/
abbrev VerdictsAgree (sameOrder : Prop) (x y : Outcome Verdict) : Prop :=
  Related (fun _ _ => True) (Verdict.Agrees sameOrder) x.result y.result

lemma VerdictsAgree.mono {sameOrder weaker : Prop} {x y : Outcome Verdict}
    (h : VerdictsAgree weaker x y) (hw : sameOrder → weaker) : VerdictsAgree sameOrder x y :=
  Related.mono h (fun _ _ => id) fun _ _ hab => hab.mono hw

/-- Two schemas have agreeing verdicts on alike values, at any places. -/
def SchemasAgree (schema schema' : Value) : Prop :=
  ∀ ⦃v w : Value⦄, Alike v w → ∀ p q : Place,
    VerdictsAgree (schema.layout = schema'.layout) (validate schema v p) (validate schema' w q)

/-- Related ends of two computations that go on alike. -/
lemma related_bind {α β γ δ : Type} {answers : α → β → Prop} {others : γ → δ → Prop}
    {x : Outcome α} {y : Outcome β} {f : α → Outcome γ} {g : β → Outcome δ}
    (h : Related (fun _ _ => True) answers x.result y.result)
    (hf : ∀ a b, answers a b → Related (fun _ _ => True) others (f a).result (g b).result) :
    Related (fun _ _ => True) others (x >>= f).result (y >>= g).result := by
  rw [Outcome.result_bind, Outcome.result_bind]
  exact h.bind hf

lemma violationsAt_eq_nil {keywords : Entries} {value : Value} {place : Place}
    {reasons : List Reason} : violationsAt keywords value place reasons = [] ↔ reasons = [] := by
  simp [violationsAt]

lemma schemasAgree_bool (b : Bool) : SchemasAgree (.bool b) (.bool b) := by
  intro v w h p q
  cases b with
  | true =>
    rw [validate_true, validate_true]
    exact .ok (.valid fun _ => h)
  | false =>
    rw [validate_false, validate_false]
    exact .ok (.invalid (by simp))

/-! ### Elements -/

lemma listVerdicts_agree {schema schema' : Value} (h : SchemasAgree schema schema')
    {xs ys : List Value} (hxs : List.Forall₂ Alike xs ys) (p q : Place) (index : Nat) :
    Related (fun _ _ => True)
      (List.Forall₂ (Verdict.Agrees (schema.layout = schema'.layout)))
      (listVerdicts validate schema p index xs).result
      (listVerdicts validate schema' q index ys).result := by
  induction hxs generalizing index with
  | nil => exact .ok .nil
  | cons hxy _ ih =>
    refine related_bind (h hxy _ _) fun _ _ hab => ?_
    refine related_bind (ih (index + 1)) fun _ _ hrest => ?_
    exact .ok (.cons hab hrest)

lemma tupleVerdicts_agree {sameOrder : Prop} {schemas schemas' : List Value}
    (h : List.Forall₂ (fun s t => SchemasAgree s t ∧ (sameOrder → s.layout = t.layout)) schemas
      schemas')
    {xs ys : List Value} (hxs : List.Forall₂ Alike xs ys) (p q : Place) (index : Nat) :
    Related (fun _ _ => True) (List.Forall₂ (Verdict.Agrees sameOrder))
      (tupleVerdicts validate p index schemas xs).result
      (tupleVerdicts validate q index schemas' ys).result := by
  induction h generalizing index xs ys with
  | nil => cases hxs <;> exact .ok .nil
  | cons hst _ ih =>
    cases hxs with
    | nil => exact .ok .nil
    | cons hxy hxs =>
      refine related_bind (hst.1 hxy _ _) fun _ _ hab => ?_
      refine related_bind (ih hxs (index + 1)) fun _ _ hrest => ?_
      exact .ok (.cons (hab.mono hst.2) hrest)

/-- The result of the elements and their violations: alike results if the schemas have the same
order, and violations in both or in none. -/
structure ElementsAgree (sameOrder : Prop) (a b : Value × List Violation) : Prop where
  clean : a.2 = [] ↔ b.2 = []
  result : sameOrder → Alike a.1 b.1

lemma ofVerdicts_agree {sameOrder : Prop} {as bs : List Verdict}
    (h : List.Forall₂ (Verdict.Agrees sameOrder) as bs) :
    ElementsAgree sameOrder (.list (ElementsPart.ofVerdicts as).results,
        (ElementsPart.ofVerdicts as).violations)
      (.list (ElementsPart.ofVerdicts bs).results, (ElementsPart.ofVerdicts bs).violations) where
  clean := by
    simp only [ElementsPart.ofVerdicts, List.flatMap_eq_nil_iff]
    exact (Matched.of_forall₂ h).forall_iff fun _ _ _ _ hab => hab.clean
  result ho := by
    refine alike_array.2 ?_
    simp only [ElementsPart.ofVerdicts, List.forall₂_map_left_iff, List.forall₂_map_right_iff]
    exact h.imp fun _ _ hab => hab.elementResult ho

end Validation

/-! ### Nodes -/

/-- Not an object with the keyword `multipleOf`. -/
def Value.lacksDivisor : Value → Bool
  | object entries => !Entries.contains entries (.string "multipleOf")
  | _ => true

/-- Alike keywords without divisors, over schemas that agree. -/
structure NodesAlike (keywords keywords' : Entries) : Prop where
  alike : keywords.Alike keywords'
  lacksDivisor : (object keywords).everyPart Value.lacksDivisor = true
  below : ∀ {child child' : Value}, Alike child child' →
    child.depth ≤ Value.depthOfEntries keywords → child.everyPart Value.lacksDivisor = true →
      Validation.SchemasAgree child child'

namespace NodesAlike

variable {keywords keywords' : Entries} (h : NodesAlike keywords keywords')

include h

lemma multipleOf : keywords.named? "multipleOf" = none := by
  have hc := everyPart_self h.lacksDivisor
  simp only [Value.lacksDivisor, Bool.not_eq_true', Entries.contains, List.any_eq_false,
    Bool.not_eq_true] at hc
  exact Entries.get?_eq_none.2 hc

/-- Keywords that hold one schema. -/
lemma schemasAgree {name : String} {s t : Value} (hs : keywords.defined? name = some s)
    (hst : Alike s t) : Validation.SchemasAgree s t :=
  have hn := Entries.named?_of_defined? hs
  h.below hst (Entries.depth_of_get? hn) (everyPart_of_get? h.lacksDivisor hn)

omit h in
lemma layout_defined? {name : String} {s t : Value} (hs : keywords.defined? name = some s)
    (ht : keywords'.defined? name = some t)
    (ho : (object keywords).layout = (object keywords').layout) : s.layout = t.layout :=
  layout_get? ho (Entries.named?_of_defined? hs) (Entries.named?_of_defined? ht)

end NodesAlike

namespace Validation

/-! ### Arrays -/

variable {keywords keywords' : Entries} (h : NodesAlike keywords keywords')

include h

lemma tuple_agree {k l : ArrayKind} {ss ts : List Value}
    (hs : keywords.defined? "items" = some (array k ss))
    (ht : keywords'.defined? "items" = some (array l ts)) (hst : List.Forall₂ Alike ss ts) :
    List.Forall₂ (fun s t => SchemasAgree s t ∧
      ((object keywords).layout = (object keywords').layout → s.layout = t.layout)) ss ts := by
  have hn := Entries.named?_of_defined? hs
  have hdepth := Entries.depth_of_get? hn
  have hlacks := everyPart_of_item (everyPart_of_get? h.lacksDivisor hn)
  have hagree : List.Forall₂ SchemasAgree ss ts := by
    refine (forall₂_mem hst).imp fun s t ⟨hmem, _, hst⟩ => h.below hst ?_ (hlacks s hmem)
    have := depth_le_depthOfItems hmem
    simp only [depth] at hdepth
    omega
  by_cases ho : (object keywords).layout = (object keywords').layout
  · refine List.Forall₂.mp (fun _ _ ha hl => ⟨ha, fun _ => hl⟩) hagree ?_
    exact forall₂_layout (NodesAlike.layout_defined? hs ht ho)
  · exact hagree.imp fun _ _ ha => ⟨ha, fun h => absurd h ho⟩

lemma elementsPart_agree {k l : ArrayKind} {xs ys : List Value} (hxs : List.Forall₂ Alike xs ys)
    (p q : Place) :
    Related (fun _ _ => True)
      (ElementsAgree ((object keywords).layout = (object keywords').layout))
      (elementsPart validate keywords xs (array k xs) p).result
      (elementsPart validate keywords' ys (array l ys) q).result := by
  rcases option_rel_iff.1 (h.alike.defined? "items") with ⟨hs, ht⟩ | ⟨s, t, hs, ht, hst⟩
  · rw [elementsPart_of_none hs, elementsPart_of_none ht]
    exact .ok ⟨Iff.rfl, fun _ => alike_array.2 hxs⟩
  · by_cases harray : s.isArray = true
    · cases hst.view with
      | @array k' l' ss ts hss =>
        rw [elementsPart_of_tuple hs, elementsPart_of_tuple ht, hxs.length_eq, hss.length_eq]
        split
        · exact .ok ⟨by simp [violationsAt], fun _ => alike_array.2 .nil⟩
        · have hschemas := tuple_agree h hs ht hss
          refine related_bind (tupleVerdicts_agree hschemas hxs p q 0) fun _ _ hab => ?_
          exact .ok (ofVerdicts_agree hab)
      | _ => cases harray
    · simp only [Bool.not_eq_true] at harray
      rw [elementsPart_of_one hs harray, elementsPart_of_one ht (hst.isArray_eq ▸ harray)]
      refine related_bind (listVerdicts_agree (h.schemasAgree hs hst) hxs p q 0) fun _ _ hab => ?_
      exact .ok (ofVerdicts_agree
        (hab.imp fun _ _ h' => h'.mono (NodesAlike.layout_defined? hs ht)))

lemma validateArray_agree {v w : Value} (hv : Alike v w) (p q : Place) :
    VerdictsAgree ((object keywords).layout = (object keywords').layout)
      (validateArray validate keywords v p) (validateArray validate keywords' w q) := by
  refine related_bind (reasonsAgree_guard h.alike .array .json hv) fun rs ts hguard => ?_
  have hclean : violationsAt keywords v p rs = [] ↔ violationsAt keywords' w q ts = [] := by
    rw [violationsAt_eq_nil, violationsAt_eq_nil, hguard]
  cases hv.view with
  | array hxs =>
    refine related_bind (elementsPart_agree h hxs p q) fun _ _ hparts => ?_
    refine .ok (.verdictOf ?_ fun ho _ _ => hparts.result ho)
    rw [List.append_eq_nil_iff, List.append_eq_nil_iff, hclean, hparts.clean]
  | _ => exact .ok (.verdictOf hclean fun _ _ _ => hv)

end Validation

end JsonSchema
