import JsonSchema.Proofs.Defaults
import JsonSchema.Proofs.WellTyped

/-!
Required properties whose schema refuses what is under their name.

Three checks share the work. An absent member is told by the check for required members, a member
that is not falsy by the check of declared ones. A falsy member is passed over by both; what is left
is the check of additional members, which refuses it where all of them are refused and no pattern
takes it. Main statement: wherever one of the three speaks, the object is refused.
-/

namespace JsonSchema.Validation

open Outcome

lemma exists_of_violations {result : Except Fault Verdict}
    (h : result.toOption.any (fun verdict => !verdict.violations.isEmpty) = true) :
    ∃ violations, result = .ok (.invalid violations) ∧ violations ≠ [] := by
  obtain ⟨verdict, hverdict, hsome⟩ := exists_of_any h
  cases verdict with
  | valid w => simp [Verdict.violations] at hsome
  | invalid violations => exact ⟨violations, hverdict, by simpa [Verdict.violations] using hsome⟩

lemma requiredNames_of_array {keywords : Entries} {kind : ArrayKind} {names : List Value}
    (h : keywords.named? "required" = some (.array kind names)) :
    requiredNames keywords = names := by
  unfold requiredNames
  rw [h]
  cases names <;> rfl

section

variable {keywords members : Entries} {place : Place} {name child : Value}

/-- A required name without a defined member is missing. -/
lemma mem_missingRequired (hm : members.IsKeyed) (hk : name.isKey = true)
    (hr : name ∈ requiredNames keywords) (ha : (members.get name).isUndefined = true) :
    name ∈ missingRequired keywords members := by
  refine List.mem_filter.2 ⟨hr, ?_⟩
  simp only [hasDefined, Bool.not_eq_true', List.any_eq_false, Bool.and_eq_true]
  rintro e he ⟨hdefined, hsame⟩
  rw [hm.get_of_same he hk hsame] at ha
  simp [ha] at hdefined

/-- A member that its declared property passes over, and that no pattern takes, is additional. -/
lemma exists_extra_of_suppressed (hm : members.IsKeyed)
    (hp : (childrenOf keywords "properties").IsKeyed)
    (hc : (name, child) ∈ childrenOf keywords "properties")
    (hs : (declaredVisit members place (name, child)).isSuppressed = true)
    (hd : (members.get name).isUndefined = false) (hn : NoPatternTakes keywords members name) :
    ∃ key, (key, members.get name) ∈ extras keywords members place := by
  obtain ⟨key, hmem, hsame⟩ := Entries.mem_of_get hd
  have hkey := hm.keys _ hmem
  refine ⟨key, mem_extras.2 ⟨hmem, hd, ?_⟩⟩
  simp only [isExtra, Bool.and_eq_true, Bool.not_eq_true', List.any_eq_false, List.all_eq_true]
  refine ⟨fun p hpattern => by simp [hn _ hmem hsame p hpattern], fun v hv => ?_⟩
  obtain ⟨e, he, rfl⟩ := List.mem_map.1 hv
  rw [Bool.or_eq_true, Bool.not_eq_true']
  by_cases hother : Value.same e.1 key = true
  · -- the declared property under this key is the one that passes the member over
    have heq : e = (name, child) :=
      hp.eq_of_same he hc (Value.same_trans (hp.keys e he) hkey hother hsame)
    exact .inr (heq ▸ hs)
  · exact .inl (Bool.not_eq_true _ ▸ hother)

/-- A refused declared property leaves a violation where its member is absent and required, not
falsy, or falsy and additional to an object that takes no additional members. -/
lemma objectViolations_ne_nil (hm : members.IsKeyed)
    (hp : (childrenOf keywords "properties").IsKeyed) (hr : name ∈ requiredNames keywords)
    (hc : (name, child) ∈ childrenOf keywords "properties") {violations : List Violation}
    (hv : (validate child (members.get name) (place.property "properties" name)).result =
      .ok (.invalid violations)) (hne : violations ≠ [])
    (htold : (members.get name).falsy = true → (members.get name).isUndefined = true ∨
      keywords.defined? "additionalProperties" = some (.bool false) ∧
        NoPatternTakes keywords members name) :
    objectViolations keywords members place ≠ [] := by
  intro hnone
  have hverdict : (declaredVisit members place (name, child)).verdict = .invalid violations :=
    Visit.verdict_eq hv
  by_cases ha : (members.get name).isUndefined = true
  · have hsome := List.ne_nil_of_mem (mem_missingRequired hm (hp.keys _ hc) hr ha)
    simp [objectViolations, violationsAt, requiredRefusals, hsome] at hnone
  cases hf : (members.get name).falsy with
  | false =>
    have hdeclared := (violations_of_objectViolations_nil hnone).1 _ (List.mem_map_of_mem hc)
    rw [if_neg (by simp [declaredVisit, hf]), Visit.violations, hverdict] at hdeclared
    exact hne hdeclared
  | true =>
    obtain ⟨hclosed, hn⟩ := (htold hf).resolve_left ha
    have hs : (declaredVisit members place (name, child)).isSuppressed = true := by
      rw [Visit.isSuppressed, hverdict]
      exact hf
    obtain ⟨key, he⟩ := exists_extra_of_suppressed hm hp hc hs (by simpa using ha) hn
    have hadditional := (violations_of_objectViolations_nil hnone).2.2
    simp [additionalViolations, additionalSchema, hclosed, List.ne_nil_of_mem he] at hadditional

/-- **A required property that is refused makes the object refused**, unless its member is falsy
and taken by a pattern or by additional members that are not all refused. The object then has a
violation wherever it has a verdict, and against a well-typed schema it has one. -/
theorem refused_of_required_refused (hs : (Value.object keywords).everyPart Value.isKeyed = true)
    (hm : members.IsKeyed) (ht : keywords.declaredType = .one .object)
    (hr : name ∈ requiredNames keywords) (hc : (name, child) ∈ childrenOf keywords "properties")
    {violations : List Violation}
    (hv : (validate child (members.get name) (place.property "properties" name)).result =
      .ok (.invalid violations)) (hne : violations ≠ [])
    (htold : (members.get name).falsy = true → (members.get name).isUndefined = true ∨
      keywords.defined? "additionalProperties" = some (.bool false) ∧
        NoPatternTakes keywords members name) :
    (∀ verdict, (validate (.object keywords) (.object members) place).result = .ok verdict →
      ∃ found, verdict = .invalid found ∧ found ≠ []) ∧
    ((Value.object keywords).isWellTyped = true →
      (Value.object keywords).everyPart Value.isInRange = true → (Value.object members).IsRegular →
      ∃ found, (validate (.object keywords) (.object members) place).result =
        .ok (.invalid found)) := by
  have hrefused : ∀ verdict,
      (validate (.object keywords) (.object members) place).result = .ok verdict →
        ∃ found, verdict = .invalid found ∧ found ≠ [] := by
    intro verdict h
    obtain ⟨-, rfl⟩ := validate_object_of_clear (Entries.named?_of_declaredType ht) hm.clear h
    have hsome := objectViolations_ne_nil hm (isKeyed_childrenOf hs) hr hc hv hne htold
    cases hfound : objectViolations keywords members place with
    | nil => exact absurd hfound hsome
    | cons v rest => exact ⟨v :: rest, rfl, List.cons_ne_nil _ _⟩
  refine ⟨hrefused, fun hw hrange hregular => ?_⟩
  obtain ⟨verdict, h⟩ := Value.decides_of_isWellTyped hw hrange _ hregular place
  obtain ⟨found, rfl, -⟩ := hrefused verdict h
  exact ⟨found, h⟩

end

def labelKeywords : Entries :=
  [(.string "type", .string "object"), (.string "required", .list [.string "id", .string "text"]),
    (.string "properties", .object [(.string "id", .object [(.string "type", .string "string")]),
      (.string "text", .object [(.string "type", .string "string")])]),
    (.string "patternProperties", .object [(.string "^x", .bool true)]),
    (.string "additionalProperties", .bool false)]

def labelMembers : Entries :=
  [(.string "text", .string "on"), (.string "xid", .null), (.string "id", .int 0)]

theorem refused_of_required_refused_label :
    (Value.string "id") ∈ requiredNames labelKeywords ∧
      (labelMembers.get (.string "id")).falsy = true ∧
      ∃ found, (validate (.object labelKeywords) (.object labelMembers) .start).result =
        .ok (.invalid found) := by
  have hchildren : childrenOf labelKeywords "properties" =
      [(.string "id", .object [(.string "type", .string "string")]),
        (.string "text", .object [(.string "type", .string "string")])] :=
    childrenOf_of_object (by simp [labelKeywords])
  have hnames : requiredNames labelKeywords = [.string "id", .string "text"] :=
    requiredNames_of_array (show labelKeywords.named? "required" =
      some (.list [.string "id", .string "text"]) by simp [labelKeywords])
  have hr : Value.string "id" ∈ requiredNames labelKeywords := hnames ▸ List.mem_cons_self ..
  obtain ⟨violations, hv, hne⟩ := exists_of_violations
    (show (validate (.object [(.string "type", .string "string")]) (labelMembers.get (.string "id"))
      (Place.start.property "properties" (.string "id"))).result.toOption.any
        (fun verdict => !verdict.violations.isEmpty) = true by decide +kernel)
  refine ⟨hr, by decide +kernel, ?_⟩
  exact (refused_of_required_refused (by decide +kernel)
    ⟨by decide +kernel, by decide +kernel⟩
    (Entries.declaredType_of_named? (by simp [labelKeywords, JsonType.name])) hr
    (hchildren ▸ List.mem_cons_self ..) hv hne
    fun _ => .inr ⟨by simp [labelKeywords, Entries.defined?, Value.isUndefined],
      by decide +kernel⟩).2
    (by decide +kernel) (by decide +kernel) ⟨by decide +kernel, by decide +kernel⟩

def looseLabelKeywords : Entries :=
  [(.string "type", .string "object"), (.string "required", .list [.string "id"]),
    (.string "properties", .object [(.string "id", .object [(.string "type", .string "string")])])]

/-- A falsy member is passed over, required or not, and taken as an additional one. -/
theorem accepted_with_required_refused :
    Value.string "id" ∈ requiredNames looseLabelKeywords ∧
      (.string "id", .object [(.string "type", .string "string")]) ∈
        childrenOf looseLabelKeywords "properties" ∧
      (Entries.get [(.string "id", .int 0)] (.string "id")).isUndefined = false ∧
      (∃ violations, violations ≠ [] ∧
        (validate (.object [(.string "type", .string "string")])
          (Entries.get [(.string "id", .int 0)] (.string "id"))
          (Place.start.property "properties" (.string "id"))).result = .ok (.invalid violations)) ∧
      ∃ result, (validate (.object looseLabelKeywords) (.object [(.string "id", .int 0)])
        .start).result = .ok (.valid result) := by
  have hchildren : childrenOf looseLabelKeywords "properties" =
      [(.string "id", .object [(.string "type", .string "string")])] :=
    childrenOf_of_object (by simp [looseLabelKeywords])
  have hnames : requiredNames looseLabelKeywords = [.string "id"] :=
    requiredNames_of_array (show looseLabelKeywords.named? "required" =
      some (.list [.string "id"]) by simp [looseLabelKeywords])
  have hr : Value.string "id" ∈ requiredNames looseLabelKeywords := hnames ▸ List.mem_cons_self ..
  obtain ⟨violations, hv, hne⟩ := exists_of_violations
    (show (validate (.object [(.string "type", .string "string")])
      (Entries.get [(.string "id", .int 0)] (.string "id"))
      (Place.start.property "properties" (.string "id"))).result.toOption.any
        (fun verdict => !verdict.violations.isEmpty) = true by decide +kernel)
  exact ⟨hr, hchildren ▸ List.mem_cons_self .., by decide +kernel, ⟨violations, hne, hv⟩,
    exists_of_isValid (by decide +kernel)⟩

end JsonSchema.Validation
