import JsonSchema.Proofs.Depth

/-!
What a verdict tells about the schema: a value that is there is never accepted as an absent one,
and only a node with a list of types refuses a value without a violation.
-/

namespace JsonSchema

/-- A node whose `type` is a list of types. -/
def Value.isUnion : Value → Bool
  | object keywords =>
    match Entries.named? keywords "type" with
    | some (array _ _) => true
    | _ => false
  | _ => false

lemma Value.named?_of_isUnion {schema : Value} (h : schema.isUnion = true) :
    ∃ keywords kind types, schema = .object keywords ∧
      Entries.named? keywords "type" = some (.array kind types) := by
  unfold Value.isUnion at h
  split at h
  · rename_i keywords
    split at h
    · exact ⟨keywords, _, _, rfl, ‹_›⟩
    · cases h
  · cases h

/-- Whether an absent value becomes a default of the schema. -/
def Value.hasDefault : Value → Bool
  | object keywords => (Entries.defined? keywords "default").isSome
  | _ => false

def Verdict.result? : Verdict → Option Value
  | valid result => some result
  | invalid _ => none

namespace Validation

open Outcome

@[simp] lemma validate_true (value : Value) (place : Place) :
    validate (.bool true) value place = pure (.valid value) := by
  rw [validate_eq]
  rfl

@[simp] lemma validate_false (value : Value) (place : Place) :
    validate (.bool false) value place =
      pure (.invalid [⟨value, .bool false, .falseSchema, place.schema, place.value⟩]) := by
  rw [validate_eq]
  rfl

lemma validate_keywords (keywords : Entries) (value : Value) (place : Place) :
    validate (.object keywords) value place = validateKeywords validate keywords value place := by
  rw [validate_eq]
  rfl

lemma validate_absent (keywords : Entries) (place : Place) :
    validate (.object keywords) .undefined place = pure (absentVerdict keywords place) := by
  rw [validate_keywords]
  rfl

/-- Only booleans and objects are schemas. -/
lemma schema_of_answer {schema value : Value} {place : Place} {verdict : Verdict}
    (h : (validate schema value place).result = .ok verdict) :
    (∃ b, schema = .bool b) ∨ ∃ keywords, schema = .object keywords := by
  rw [validate_eq] at h
  cases schema with
  | bool b => exact .inl ⟨b, rfl⟩
  | object keywords => exact .inr ⟨keywords, rfl⟩
  | _ => cases h

@[simp] lemma violations_verdictOf (value : Value) (violations : List Violation) :
    (verdictOf value violations).violations = violations := by
  cases violations <;> rfl

@[simp] lemma isValid_verdictOf (value : Value) (violations : List Violation) :
    (verdictOf value violations).isValid = violations.isEmpty := by
  cases violations <;> rfl

lemma verdictOf_eq_valid {value w : Value} {violations : List Violation} :
    verdictOf value violations = .valid w ↔ violations = [] ∧ value = w := by
  cases violations <;> simp [verdictOf]

lemma verdictOf_ne_invalid_nil {value : Value} {violations : List Violation} :
    verdictOf value violations ≠ .invalid [] := by
  cases violations <;> simp [verdictOf]

lemma exists_of_isValid {result : Except Fault Verdict}
    (h : result.toOption.any Verdict.isValid = true) : ∃ w, result = .ok (.valid w) := by
  cases result with
  | error fault => simp [Except.toOption] at h
  | ok verdict =>
    cases verdict with
    | valid w => exact ⟨w, rfl⟩
    | invalid vs => simp [Except.toOption, Verdict.isValid] at h

lemma exists_of_result? {result : Except Fault Verdict} {p : Value → Bool}
    (h : result.toOption.any (·.result?.any p) = true) :
    ∃ w, result = .ok (.valid w) ∧ p w = true := by
  obtain ⟨verdict, hverdict, hp⟩ := exists_of_any h
  cases verdict with
  | valid w => exact ⟨w, hverdict, hp⟩
  | invalid vs => cases hp

/-! ### Verdicts of elements -/

lemma listVerdicts_eq_ok {schema : Value} {place : Place} {index : Nat} {items : List Value}
    {verdicts : List Verdict}
    (h : (listVerdicts validate schema place index items).result = .ok verdicts) :
    ∀ i verdict, verdicts[i]? = some verdict → ∃ item, items[i]? = some item ∧
      (validate schema item (place.listElement (index + i))).result = .ok verdict := by
  induction items generalizing index verdicts with
  | nil => cases h; simp
  | cons item rest ih =>
    obtain ⟨first, hf, h⟩ := result_bind_eq_ok.1 h
    obtain ⟨later, hl, h⟩ := result_bind_eq_ok.1 h
    cases h
    intro i verdict hi
    cases i with
    | zero =>
      cases hi
      exact ⟨item, rfl, hf⟩
    | succ i =>
      obtain ⟨e, he, hv⟩ := ih hl i verdict hi
      exact ⟨e, he, by rwa [show index + (i + 1) = index + 1 + i by omega]⟩

lemma tupleVerdicts_eq_ok {place : Place} {index : Nat} {schemas items : List Value}
    {verdicts : List Verdict}
    (h : (tupleVerdicts validate place index schemas items).result = .ok verdicts) :
    ∀ i verdict, verdicts[i]? = some verdict → ∃ schema item, schemas[i]? = some schema ∧
      items[i]? = some item ∧
      (validate schema item (place.tupleElement (index + i))).result = .ok verdict := by
  induction schemas generalizing index items verdicts with
  | nil => cases items <;> cases h <;> simp
  | cons schema schemas ih =>
    cases items with
    | nil => cases h; simp
    | cons item rest =>
      obtain ⟨first, hf, h⟩ := result_bind_eq_ok.1 h
      obtain ⟨later, hl, h⟩ := result_bind_eq_ok.1 h
      cases h
      intro i verdict hi
      cases i with
      | zero =>
        cases hi
        exact ⟨schema, item, rfl, rfl, hf⟩
      | succ i =>
        obtain ⟨s, e, hs, he, hv⟩ := ih hl i verdict hi
        exact ⟨s, e, hs, he, by rwa [show index + (i + 1) = index + 1 + i by omega]⟩

lemma length_listVerdicts {schema : Value} {place : Place} {index : Nat} {items : List Value}
    {verdicts : List Verdict}
    (h : (listVerdicts validate schema place index items).result = .ok verdicts) :
    verdicts.length = items.length := by
  induction items generalizing index verdicts with
  | nil => cases h; rfl
  | cons item rest ih =>
    obtain ⟨first, -, h⟩ := result_bind_eq_ok.1 h
    obtain ⟨later, hl, h⟩ := result_bind_eq_ok.1 h
    cases h
    rw [List.length_cons, ih hl, List.length_cons]

lemma length_tupleVerdicts {place : Place} {index : Nat} {schemas items : List Value}
    {verdicts : List Verdict}
    (h : (tupleVerdicts validate place index schemas items).result = .ok verdicts) :
    verdicts.length = min schemas.length items.length := by
  induction schemas generalizing index items verdicts with
  | nil => cases items <;> cases h <;> simp
  | cons schema schemas ih =>
    cases items with
    | nil => cases h; simp
    | cons item rest =>
      obtain ⟨first, -, h⟩ := result_bind_eq_ok.1 h
      obtain ⟨later, hl, h⟩ := result_bind_eq_ok.1 h
      cases h
      rw [List.length_cons, ih hl]
      simp only [List.length_cons]
      omega

lemma elementsPart_of_none {keywords : Entries} (h : keywords.defined? "items" = none)
    (items : List Value) (value : Value) (place : Place) :
    elementsPart validate keywords items value place = pure (value, []) := by
  unfold elementsPart
  rw [h]

/-- Elements in a tuple. -/
lemma elementsPart_of_tuple {keywords : Entries} {kind : ArrayKind} {schemas : List Value}
    (h : keywords.defined? "items" = some (.array kind schemas)) (items : List Value)
    (value : Value) (place : Place) :
    elementsPart validate keywords items value place =
      if items.length < schemas.length then
        pure (.list [], violationsAt keywords value place
          [.tupleLength schemas.length items.length])
      else do
        let verdicts ← tupleVerdicts validate place 0 schemas items
        return (.list (ElementsPart.ofVerdicts verdicts).results,
          (ElementsPart.ofVerdicts verdicts).violations) := by
  unfold elementsPart
  rw [h]

/-- Elements that have one schema. -/
lemma elementsPart_of_one {keywords : Entries} {schema : Value}
    (h : keywords.defined? "items" = some schema) (hs : schema.isArray = false)
    (items : List Value) (value : Value) (place : Place) :
    elementsPart validate keywords items value place = do
      let verdicts ← listVerdicts validate schema place 0 items
      return (.list (ElementsPart.ofVerdicts verdicts).results,
        (ElementsPart.ofVerdicts verdicts).violations) := by
  unfold elementsPart
  rw [h]
  cases schema with
  | array => cases hs
  | _ => rfl

/-! ### Verdicts of a type -/

lemma elementsPart_eq_ok {keywords : Entries} {kind : ArrayKind} {items : List Value}
    {place : Place} {result : Value × List Violation}
    (h : (elementsPart validate keywords items (.array kind items) place).result = .ok result) :
    result.1.isUndefined = false := by
  unfold elementsPart at h
  split at h
  · cases h; rfl
  · split at h
    · cases h; rfl
    · obtain ⟨verdicts, -, h⟩ := result_bind_eq_ok.1 h
      cases h; rfl
  · obtain ⟨verdicts, -, h⟩ := result_bind_eq_ok.1 h
    cases h; rfl

/-- The verdict of a type on a value that is there: violations, or a value that is there. -/
lemma validateTyped_eq_ok {type : JsonType} {keywords : Entries} {value : Value} {place : Place}
    {verdict : Verdict} (hv : value.isUndefined = false)
    (h : (validateTyped validate type keywords value place).result = .ok verdict) :
    ∃ built violations, verdict = verdictOf built violations ∧ built.isUndefined = false := by
  have hscalar : ∀ reasons, (scalarVerdict keywords value place reasons).result = .ok verdict →
      ∃ built violations, verdict = verdictOf built violations ∧ built.isUndefined = false := by
    intro reasons h
    obtain ⟨_, -, h⟩ := result_bind_eq_ok.1 h
    cases h
    exact ⟨value, _, rfl, hv⟩
  cases type with
  | array =>
    obtain ⟨guard, -, h⟩ := result_bind_eq_ok.1 h
    split at h
    · obtain ⟨⟨result, violations⟩, he, h⟩ := result_bind_eq_ok.1 h
      cases h
      exact ⟨result, _, rfl, elementsPart_eq_ok he⟩
    · cases h
      exact ⟨value, _, rfl, hv⟩
  | object =>
    obtain ⟨guard, -, h⟩ := result_bind_eq_ok.1 h
    split at h
    · obtain ⟨part, -, h⟩ := result_bind_eq_ok.1 h
      cases h
      exact ⟨_, _, rfl, rfl⟩
    · cases h
      exact ⟨_, _, rfl, rfl⟩
  | _ => exact hscalar _ h

/-! ### Verdicts of a schema -/

/-- A value that is there is accepted as a value that is there. -/
lemma isUndefined_of_valid {schema value w : Value} {place : Place}
    (hv : value.isUndefined = false)
    (h : (validate schema value place).result = .ok (.valid w)) : w.isUndefined = false := by
  rcases schema_of_answer h with ⟨b, rfl⟩ | ⟨keywords, rfl⟩
  · cases b
    · rw [validate_false] at h; cases h
    · rw [validate_true] at h; cases h; exact hv
  · rw [validate_keywords] at h
    unfold validateKeywords at h
    rw [if_neg (by simp [hv])] at h
    split at h
    · obtain ⟨_, -, h⟩ := result_bind_eq_ok.1 h
      cases h
    · split at h
      · obtain ⟨built, violations, hb, hu⟩ := validateTyped_eq_ok hv h
        obtain ⟨-, rfl⟩ := verdictOf_eq_valid.1 hb.symm
        exact hu
      · cases h; exact hv

/-- An absent value is accepted where everything is, and where there is a default. -/
lemma absent_valid {schema w : Value} {place : Place}
    (h : (validate schema .undefined place).result = .ok (.valid w)) :
    (schema = .bool true ∧ w = .undefined) ∨
      ∃ keywords, schema = .object keywords ∧ Entries.defined? keywords "default" = some w := by
  rcases schema_of_answer h with ⟨b, rfl⟩ | ⟨keywords, rfl⟩
  · cases b
    · rw [validate_false] at h; cases h
    · rw [validate_true] at h; cases h; exact .inl ⟨rfl, rfl⟩
  · rw [validate_absent] at h
    unfold absentVerdict at h
    split at h <;> cases h
    exact .inr ⟨keywords, rfl, ‹_›⟩

/-- An absent value is accepted as the default of a node, or stays absent. -/
lemma hasDefault_of_valid {schema w : Value} {place : Place} (hw : w.isUndefined = false)
    (h : (validate schema .undefined place).result = .ok (.valid w)) :
    schema.hasDefault = true := by
  rcases absent_valid h with ⟨-, rfl⟩ | ⟨keywords, rfl, hd⟩
  · cases hw
  · simp [Value.hasDefault, hd]

lemma valid_of_hasDefault {schema : Value} (h : schema.hasDefault = true) (place : Place) :
    ∃ w, w.isUndefined = false ∧ (validate schema .undefined place).result = .ok (.valid w) := by
  cases schema with
  | object keywords =>
    obtain ⟨w, hw⟩ := Option.isSome_iff_exists.1 h
    refine ⟨w, Entries.isUndefined_of_defined? hw, ?_⟩
    rw [validate_absent]
    simp [absentVerdict, hw]
  | _ => cases h

/-- A refusal without violations comes from a node with a list of types. -/
lemma isUnion_of_invalid_nil {schema value : Value} {place : Place}
    (h : (validate schema value place).result = .ok (.invalid [])) : schema.isUnion = true := by
  rcases schema_of_answer h with ⟨b, rfl⟩ | ⟨keywords, rfl⟩
  · cases b
    · rw [validate_false] at h; cases h
    · rw [validate_true] at h; cases h
  · rw [validate_keywords] at h
    unfold validateKeywords at h
    split at h
    · unfold absentVerdict at h
      split at h <;> cases h
    · rename_i hv
      split at h
      · rename_i kind types ht
        simp [Value.isUnion, ht]
      · split at h
        · obtain ⟨_, _, hb, -⟩ := validateTyped_eq_ok (by simpa using hv) h
          exact absurd hb.symm verdictOf_ne_invalid_nil
        · cases h

/-- A node with a list of types refuses every value that is there, and tells nothing. -/
lemma validate_of_isUnion {schema value : Value} (hu : schema.isUnion = true)
    (hv : value.isUndefined = false) (place : Place) :
    (validate schema value place).result = .ok (.invalid []) := by
  obtain ⟨keywords, kind, types, rfl, ht⟩ := Value.named?_of_isUnion hu
  rw [validate_keywords]
  unfold validateKeywords
  simp only [hv, ht]
  rfl

/-- An absent value is never refused without a violation. -/
lemma isUndefined_of_invalid_nil {schema value : Value} {place : Place}
    (h : (validate schema value place).result = .ok (.invalid [])) :
    value.isUndefined = false := by
  rw [← Bool.not_eq_true]
  intro hv
  obtain rfl := Value.eq_undefined hv
  rcases schema_of_answer h with ⟨b, rfl⟩ | ⟨keywords, rfl⟩
  · cases b
    · rw [validate_false] at h; cases h
    · rw [validate_true] at h; cases h
  · rw [validate_absent] at h
    unfold absentVerdict at h
    split at h <;> cases h

/-- **When a refusal tells nothing**: exactly where the schema is a node with a list of types and
the value is there. Every other refusal has a violation, also where nodes with lists of types stand
below the schema. -/
theorem invalid_nil_iff (schema value : Value) (place : Place) :
    ((validate schema value place).result = .ok (.invalid []) ↔
      schema.isUnion = true ∧ value.isUndefined = false) ∧
    ∀ violations, (validate schema value place).result = .ok (.invalid violations) →
      ¬(schema.isUnion = true ∧ value.isUndefined = false) → violations ≠ [] := by
  have hiff : (validate schema value place).result = .ok (.invalid []) ↔
      schema.isUnion = true ∧ value.isUndefined = false :=
    ⟨fun h => ⟨isUnion_of_invalid_nil h, isUndefined_of_invalid_nil h⟩,
      fun ⟨hu, hv⟩ => validate_of_isUnion hu hv place⟩
  refine ⟨hiff, fun violations h hother => ?_⟩
  rintro rfl
  exact hother (hiff.1 h)

def looseTypesSchema : Value :=
  let either := .object [(.string "type", .list [.string "string", .string "null"])]
  .object [(.string "type", .string "object"), (.string "minProperties", .int 3),
    (.string "properties", .object [(.string "pair", .object [(.string "type", .string "array"),
      (.string "items", .list [either, either])])]), (.string "additionalProperties", either)]

/-- The refusals of the nodes below leave no trace, and what is told is the node's own. -/
theorem invalid_nil_iff_loose : ∃ violations,
    (validate looseTypesSchema (.object [(.string "pair", .list [.null, .int 1]),
      (.string "rest", .string "x")]) .start).result = .ok (.invalid violations) ∧
      looseTypesSchema.isUnion = false ∧ violations.length = 1 ∧ violations ≠ [] := by
  have hany : ((validate looseTypesSchema (.object [(.string "pair", .list [.null, .int 1]),
      (.string "rest", .string "x")]) .start).result.toOption.any
      fun verdict => verdict.violations.length == 1) = true := by decide +kernel
  obtain ⟨verdict, h, hone⟩ := exists_of_any hany
  have hu : looseTypesSchema.isUnion = false := by decide +kernel
  cases verdict with
  | valid w => cases hone
  | invalid violations =>
    exact ⟨violations, h, hu, by simpa [Verdict.violations] using hone,
      (invalid_nil_iff _ _ _).2 violations h fun hunion => by simp [hu] at hunion⟩

end Validation

end JsonSchema
