import JsonSchema.Proofs.Object.Accepted

/-!
Records: object nodes that are built from required and optional fields and from nothing else.

Main statement: a record accepts the objects that have all required fields and no others than its
fields, each accepted by the schema of its field. A falsy member that its declaration passes over
counts as an additional one, and is refused as such.
-/

namespace JsonSchema

/-- Schemas under different names, none of them with a list of types. -/
structure Entries.AreFields (fields : Entries) : Prop where
  stringKeys : fields.HasStringKeys
  distinctKeys : fields.HasDistinctKeys
  noUnion : ∀ e ∈ fields, Value.isUnion e.2 = false

namespace Builder

/-- The schema of a field: the optional one, if there are two. -/
def field? (required optional : Option Entries) (name : Value) : Option Value :=
  ((optional.getD []).get? name).or ((required.getD []).get? name)

def fieldNames (required optional : Option Entries) : List Value :=
  Entries.keys (required.getD []) ++
    (Entries.keys (optional.getD [])).filter (!Entries.contains (required.getD []) ·)

def recordKeywords (required optional : Option Entries) : Entries :=
  (.string "type", .string "object") ::
    (match required with
      | some fields => [(.string "required", .list (Entries.keys fields))]
      | none => []) ++
    [(.string "properties", .object (properties required optional)),
      (.string "additionalProperties", .bool false)]

variable {required optional : Option Entries}

lemma object_eq_recordKeywords (h : required.isSome = true ∨ optional.isSome = true) :
    object .null required optional [] = .object (recordKeywords required optional) := by
  cases required with
  | some fields =>
    simp [Builder.object, recordKeywords, Entries.update, Entries.insert, Value.isTruthy,
      Value.same]
  | none =>
    have ho : optional.isNone = false := by simpa using h
    simp [Builder.object, recordKeywords, Entries.update, Entries.insert, Value.isTruthy,
      Value.same, ho]

/-! ### Keywords -/

lemma named?_recordKeywords (name : String)
    (h : name ∉ ["type", "required", "properties", "additionalProperties"]) :
    (recordKeywords required optional).named? name = none := by
  simp only [List.mem_cons, List.not_mem_nil, or_false, not_or] at h
  obtain ⟨ht, hr, hp, ha⟩ := h
  cases required <;>
    simp [recordKeywords, Ne.symm ht, Ne.symm hr, Ne.symm hp, Ne.symm ha]

lemma type_recordKeywords :
    (recordKeywords required optional).named? "type" = some (.string "object") := by
  simp [recordKeywords]

lemma properties_recordKeywords :
    Validation.childrenOf (recordKeywords required optional) "properties" =
      properties required optional := by
  have hn : (recordKeywords required optional).named? "properties" =
      some (.object (properties required optional)) := by
    cases required <;> simp [recordKeywords]
  cases hp : properties required optional <;>
    simp [Validation.childrenOf, Entries.children, hn, hp, Value.isTruthy, Except.toOption]

lemma patterns_recordKeywords :
    Validation.childrenOf (recordKeywords required optional) "patternProperties" = [] := by
  rw [Validation.childrenOf, Entries.children, named?_recordKeywords _ (by decide)]
  rfl

lemma additional_recordKeywords :
    Validation.additionalSchema (recordKeywords required optional) = .bool false := by
  have hn : (recordKeywords required optional).named? "additionalProperties" =
      some (.bool false) := by
    cases required <;> simp [recordKeywords]
  simp [Validation.additionalSchema, Entries.defined?, hn, Value.isUndefined, Option.filter]

lemma required_recordKeywords :
    Validation.requiredNames (recordKeywords required optional) =
      Entries.keys (required.getD []) := by
  cases required with
  | none => simp [Validation.requiredNames, recordKeywords, Entries.keys]
  | some fields =>
    cases fields <;>
      simp [Validation.requiredNames, recordKeywords, Entries.keys, Value.list, Value.isTruthy,
        Option.filter, Value.elements, Except.toOption]

/-! ### Fields -/

lemma keys_properties (ho : Entries.AreFields (optional.getD [])) :
    (properties required optional).keys = fieldNames required optional := by
  rw [properties, Entries.keys_update ho.stringKeys, fieldNames,
    Entries.firstKeys_of_pairwise (Entries.hasDistinctKeys_iff.1 ho.distinctKeys)]

lemma get?_properties (ho : Entries.AreFields (optional.getD [])) (name : Value) :
    (properties required optional).get? name = field? required optional name := by
  rw [properties, Entries.get?_update ho.stringKeys, field?,
    Entries.last?_eq_get? ho.stringKeys ho.distinctKeys]

section

variable (hr : Entries.AreFields (required.getD [])) (ho : Entries.AreFields (optional.getD []))

include hr ho

lemma stringKeys_properties : (properties required optional).HasStringKeys := by
  intro e he
  have hname : e.1 ∈ fieldNames required optional := by
    rw [← keys_properties ho]
    exact List.mem_map_of_mem he
  rcases List.mem_append.1 hname with hm | hm
  · obtain ⟨f, hf, hk⟩ := List.mem_map.1 hm
    exact hk ▸ hr.stringKeys f hf
  · obtain ⟨f, hf, hk⟩ := List.mem_map.1 (List.mem_filter.1 hm).1
    exact hk ▸ ho.stringKeys f hf

lemma mem_properties {name child : Value} :
    (name, child) ∈ properties required optional ↔ field? required optional name = some child := by
  rw [← get?_properties ho]
  constructor
  · exact Entries.get?_of_mem (hr.distinctKeys.update _)
  · intro hg
    obtain ⟨k, hm, hk⟩ := Entries.mem_of_get? hg
    obtain ⟨s, rfl⟩ := Value.isString_iff.1 (stringKeys_properties hr ho _ hm)
    obtain rfl := Value.string_same.1 hk
    exact hm

lemma isUnion_of_field? {name child : Value} (h : field? required optional name = some child) :
    child.isUnion = false := by
  rcases Option.or_eq_some_iff.1 h with hg | ⟨-, hg⟩
  · obtain ⟨k, hm, -⟩ := Entries.mem_of_get? hg
    exact ho.noUnion _ hm
  · obtain ⟨k, hm, -⟩ := Entries.mem_of_get? hg
    exact hr.noUnion _ hm

lemma isString_of_field? {name child : Value} (h : field? required optional name = some child) :
    name.isString = true :=
  stringKeys_properties hr ho _ ((mem_properties hr ho).2 h)

end

end Builder

namespace Validation

open Builder

section

variable {required optional : Option Entries} {members : Entries} {place : Place}

/-- A member under the name of a field has a result there. -/
def FieldGives (required optional : Option Entries) (place : Place) (name member result : Value) :
    Prop :=
  ∃ child, field? required optional name = some child ∧
    (validate child member (place.property "properties" name)).result = .ok (.valid result)

/-- Every member that is there has the result of its field. -/
def AllFieldsGive (required optional : Option Entries) (members : Entries) (place : Place) : Prop :=
  ∀ e ∈ members, e.2.isUndefined = false → ∃ w, FieldGives required optional place e.1 e.2 w

lemma hasDefined_iff (hk : members.HasDistinctKeys) {name : Value} (hs : name.isString = true) :
    hasDefined members name = true ↔ (members.get name).isUndefined = false := by
  simp only [hasDefined, List.any_eq_true, Bool.and_eq_true, Bool.not_eq_true',
    Value.same_of_isString hs]
  constructor
  · rintro ⟨e, he, hd, rfl⟩
    rwa [Entries.get_of_mem hk he]
  · intro hd
    obtain ⟨k, hm, hk⟩ := Entries.mem_of_get hd
    exact ⟨_, hm, hd, (Value.same_of_isString hs).1 hk⟩

/-! ### Violations of a record -/

lemma patternVisits_record :
    patternVisits (recordKeywords required optional) members place = [] := by
  rw [patternVisits, patterns_recordKeywords]
  rfl

lemma guardRefusals_record :
    guardRefusals (recordKeywords required optional) .object .json (.object members) = [] := by
  simp [guardRefusals, typeReasons, Value.mismatch?, Value.kindName, JsonType.name, constRefusals,
    enumRefusals, Entries.defined?, Entries.given?, named?_recordKeywords]

lemma namesViolations_record :
    namesViolations (recordKeywords required optional) members place = [] := by
  simp [namesViolations, Entries.defined?, named?_recordKeywords]

lemma countRefusals_record :
    countRefusals (recordKeywords required optional) members = [] := by
  simp [countRefusals, Entries.given?, named?_recordKeywords]

lemma requiredRefusals_eq_nil {keywords : Entries} :
    requiredRefusals keywords members = [] ↔ missingRequired keywords members = [] := by
  unfold requiredRefusals
  split <;> simp_all

lemma additionalViolations_record :
    additionalViolations (recordKeywords required optional) members place = [] ↔
      extras (recordKeywords required optional) members place = [] := by
  rw [additionalViolations, additional_recordKeywords]
  simp only
  split <;> simp_all

lemma objectViolations_record :
    objectViolations (recordKeywords required optional) members place = [] ↔
      missingRequired (recordKeywords required optional) members = [] ∧
        (∀ v ∈ declaredVisits (recordKeywords required optional) members place,
          v.value.falsy = false → v.violations = []) ∧
        extras (recordKeywords required optional) members place = [] := by
  have hfalsy : ∀ v : Visit, (if v.value.falsy = true then [] else v.violations) = [] ↔
      (v.value.falsy = false → v.violations = []) := by
    intro v
    cases v.value.falsy <;> simp
  simp only [objectViolations, guardRefusals_record, patternVisits_record, namesViolations_record,
    countRefusals_record, List.append_eq_nil_iff, List.flatMap_eq_nil_iff, hfalsy,
    additionalViolations_record, ← requiredRefusals_eq_nil]
  simp [violationsAt, and_assoc]

lemma missingRequired_record (hr : Entries.AreFields (required.getD []))
    (hk : members.HasDistinctKeys) :
    missingRequired (recordKeywords required optional) members = [] ↔
      ∀ name ∈ Entries.keys (required.getD []), (members.get name).isUndefined = false := by
  rw [missingRequired, required_recordKeywords, List.filter_eq_nil_iff]
  refine forall₂_congr fun name hname => ?_
  obtain ⟨f, hf, rfl⟩ := List.mem_map.1 hname
  rw [Bool.not_eq_true, Bool.not_eq_false', hasDefined_iff hk (hr.stringKeys f hf)]

/-- The visit of a field has the result of the field. -/
lemma verdict_of_fieldGives {name child w : Value}
    (hfield : field? required optional name = some child)
    (hg : FieldGives required optional place name (members.get name) w) :
    (declaredVisit members place (name, child)).verdict = .valid w := by
  obtain ⟨child', hfield', hv⟩ := hg
  obtain rfl : child = child' := Option.some.inj (hfield.symm.trans hfield')
  exact Visit.verdict_eq hv

lemma AllFieldsGive.get (hg : AllFieldsGive required optional members place) {name : Value}
    (hs : name.isString = true) (hd : (members.get name).isUndefined = false) :
    ∃ w, FieldGives required optional place name (members.get name) w := by
  obtain ⟨k, hm, hk⟩ := Entries.mem_of_get hd
  obtain rfl := (Value.same_of_isString hs).1 hk
  exact hg _ hm hd

/-- Whether a field is in the result: its member is there, or it has a default. -/
def isKept (required optional : Option Entries) (members : Entries) (name : Value) : Bool :=
  !(members.get name).isUndefined || (field? required optional name).any Value.hasDefault

lemma completedMembers_record (h : Accepted (recordKeywords required optional) members place) :
    completedMembers (recordKeywords required optional) members place =
      Visit.filled (declaredVisits (recordKeywords required optional) members place) := by
  have hadd : additionalVisits (recordKeywords required optional) members place = [] := by
    rw [additionalVisits, (objectViolations_record.1 h.noViolations).2.2]
    rfl
  rw [h.completedMembers_eq (by simp [patternVisits_record]), patternVisits_record, hadd]
  rfl

section

variable (hr : Entries.AreFields (required.getD [])) (ho : Entries.AreFields (optional.getD []))

include hr ho

lemma noUnionBelow_record : NoUnionBelow (recordKeywords required optional) := by
  rw [NoUnionBelow, properties_recordKeywords, patterns_recordKeywords, additional_recordKeywords]
  refine ⟨?_, by simp, rfl⟩
  intro e he
  exact isUnion_of_field? hr ho ((mem_properties hr ho).1 he)

/-- The declared visit of a field. -/
lemma mem_declaredVisits_record {v : Visit} :
    v ∈ declaredVisits (recordKeywords required optional) members place ↔
      ∃ name child, field? required optional name = some child ∧
        declaredVisit members place (name, child) = v := by
  rw [declaredVisits, properties_recordKeywords]
  simp [mem_properties hr ho]

lemma allFieldsGive_of_accepted (h : Accepted (recordKeywords required optional) members place) :
    AllFieldsGive required optional members place := by
  intro e he hd
  have hextras := (objectViolations_record.1 h.noViolations).2.2
  have hx : isExtra (recordKeywords required optional) members place e.1 = false := by
    rw [← Bool.not_eq_true]
    intro hx
    have hmem := mem_extras.2 ⟨he, hd, hx⟩
    simp [hextras] at hmem
  rcases visit_of_not_isExtra h.stringKeys he hx with ⟨v, hv, -⟩ | ⟨v, hv, hkey, hs⟩
  · simp [patternVisits_record] at hv
  · have hvalid := Visit.validate_of_isValid (h.answers v (by simp [objectVisits, hv]))
      (h.isValid_of_declared hv hs)
    obtain ⟨name, child, hfield, rfl⟩ := (mem_declaredVisits_record hr ho).1 hv
    obtain rfl : name = e.1 := hkey
    refine ⟨(declaredVisit members place (e.1, child)).result, child, hfield, ?_⟩
    rw [← Entries.get_of_mem h.distinctKeys he]
    exact hvalid

lemma noViolations_of_fields (hs : members.HasStringKeys) (hk : members.HasDistinctKeys)
    (hreq : ∀ name ∈ Entries.keys (required.getD []), (members.get name).isUndefined = false)
    (hg : AllFieldsGive required optional members place) :
    objectViolations (recordKeywords required optional) members place = [] := by
  refine objectViolations_record.2 ⟨(missingRequired_record hr hk).2 hreq, ?_, ?_⟩
  · intro v hv hfalsy
    obtain ⟨name, child, hfield, rfl⟩ := (mem_declaredVisits_record hr ho).1 hv
    have hd : (members.get name).isUndefined = false := by
      rw [← Bool.not_eq_true]
      intro hd
      simp [declaredVisit, Value.falsy_of_isUndefined hd] at hfalsy
    obtain ⟨w, hw⟩ := hg.get (isString_of_field? hr ho hfield) hd
    refine Visit.violations_of_isValid ?_
    rw [verdict_of_fieldGives hfield hw]
    rfl
  · refine List.eq_nil_iff_forall_not_mem.2 fun e he => ?_
    obtain ⟨hm, hd, hx⟩ := mem_extras.1 he
    obtain ⟨w, hw⟩ := hg e hm hd
    obtain ⟨child, hfield, -⟩ := id hw
    have hv : declaredVisit members place (e.1, child) ∈
        declaredVisits (recordKeywords required optional) members place :=
      (mem_declaredVisits_record hr ho).2 ⟨_, _, hfield, rfl⟩
    have hsup := ((isExtra_iff hs hm).1 hx).2 _ hv (Value.same_self e.1)
    rw [← Entries.get_of_mem hk hm] at hw
    simp [Visit.isSuppressed, verdict_of_fieldGives hfield hw, Verdict.isValid] at hsup

/-! ### The result of a record -/

lemma isUndefined_result_record (h : Accepted (recordKeywords required optional) members place)
    {name child : Value} (hfield : field? required optional name = some child) :
    (!(declaredVisit members place (name, child)).result.isUndefined) =
      isKept required optional members name := by
  have hv : declaredVisit members place (name, child) ∈
      declaredVisits (recordKeywords required optional) members place :=
    (mem_declaredVisits_record hr ho).2 ⟨_, _, hfield, rfl⟩
  have ha : (declaredVisit members place (name, child)).Answers :=
    h.answers _ (by simp [objectVisits, hv])
  cases hd : (members.get name).isUndefined with
  | true =>
    have hget : members.get name = .undefined := Value.eq_undefined hd
    rw [Visit.isUndefined_result_of_absent ha hget]
    simp [declaredVisit, isKept, hd, hfield]
  | false =>
    obtain ⟨w, hw⟩ := (allFieldsGive_of_accepted hr ho h).get (isString_of_field? hr ho hfield) hd
    have hvalid : (declaredVisit members place (name, child)).verdict.isValid = true := by
      rw [verdict_of_fieldGives hfield hw]
      rfl
    simp [Visit.isUndefined_result ha hd hvalid, isKept, hd]

lemma keys_record (h : Accepted (recordKeywords required optional) members place) :
    (completedMembers (recordKeywords required optional) members place).keys =
      (fieldNames required optional).filter (isKept required optional members) := by
  rw [completedMembers_record h, Visit.keys_filled, declaredVisits, properties_recordKeywords,
    List.filter_map, List.map_map, ← keys_properties ho, Entries.keys, List.filter_map]
  refine congrArg (List.map fun e : Value × Value => e.1) (List.filter_congr fun e he => ?_)
  exact isUndefined_result_record hr ho h ((mem_properties hr ho).1 he)

lemma fieldGives_record (h : Accepted (recordKeywords required optional) members place)
    {name : Value}
    (hname : name ∈ (completedMembers (recordKeywords required optional) members place).keys) :
    FieldGives required optional place name (members.get name)
      ((completedMembers (recordKeywords required optional) members place).get name) := by
  have hc := completedMembers_record h
  rw [hc, Visit.mem_keys_filled] at hname
  obtain ⟨v, hv, hres, rfl⟩ := hname
  have hget : (completedMembers (recordKeywords required optional) members place).get v.key =
      v.result := by
    rw [hc]
    exact Entries.get_of_mem (Visit.distinctKeys_filled h.distinct_declared)
      (Visit.mem_filled hv hres)
  have hverdict := Visit.verdict_of_result hres
  have hvalid := Visit.validate_of_isValid (h.answers v (by simp [objectVisits, hv]))
    (hverdict ▸ rfl)
  obtain ⟨name, child, hfield, rfl⟩ := (mem_declaredVisits_record hr ho).1 hv
  exact ⟨child, hfield, hget ▸ hvalid⟩

end

end

/-- **The law of records.** A record accepts the objects that have all required fields and no
others than its fields, each accepted by the schema of its field, falsy ones too. The result has
the fields that are there or have a default, in the order of the fields, each as its schema
completes it. -/
theorem closed_record {required optional : Option Entries} {value : Value} {place : Place}
    {verdict : Verdict} (hgiven : required.isSome = true ∨ optional.isSome = true)
    (hr : Entries.AreFields (required.getD [])) (ho : Entries.AreFields (optional.getD []))
    (hv : value.isUndefined = false)
    (hs : ∀ members : Entries, value = .object members →
      members.HasStringKeys ∧ members.HasDistinctKeys)
    (h : (validate (Builder.object .null required optional []) value place).result = .ok verdict) :
    (verdict.isValid = true ↔ ∃ members : Entries, value = .object members ∧
      (∀ name ∈ Entries.keys (required.getD []), (members.get name).isUndefined = false) ∧
      AllFieldsGive required optional members place) ∧
    ∀ result, verdict = .valid result → ∃ members completed : Entries,
      value = .object members ∧ result = .object completed ∧
      completed.keys = (fieldNames required optional).filter (isKept required optional members) ∧
      ∀ name ∈ completed.keys,
        FieldGives required optional place name (members.get name) (completed.get name) := by
  have hp : (childrenOf (recordKeywords required optional) "properties").HasDistinctKeys := by
    rw [properties_recordKeywords]
    exact hr.distinctKeys.update _
  rw [object_eq_recordKeywords hgiven] at h
  have hvalid : ∀ result, verdict = .valid result → ∃ members : Entries,
      value = .object members ∧ Accepted (recordKeywords required optional) members place ∧
      result = .object (completedMembers (recordKeywords required optional) members place) := by
    rintro result rfl
    obtain ⟨members, rfl⟩ := object_of_valid type_recordKeywords hv h
    obtain ⟨hstring, hdistinct⟩ := hs members rfl
    exact ⟨members, rfl, accepted_of_valid type_recordKeywords hp (noUnionBelow_record hr ho)
      hstring hdistinct h⟩
  refine ⟨⟨fun hver => ?_, ?_⟩, fun result hres => ?_⟩
  · cases verdict with
    | invalid violations => cases hver
    | valid result =>
      obtain ⟨members, rfl, ha, -⟩ := hvalid result rfl
      refine ⟨members, rfl, ?_, allFieldsGive_of_accepted hr ho ha⟩
      exact (missingRequired_record hr ha.distinctKeys).1
        (objectViolations_record.1 ha.noViolations).1
  · rintro ⟨members, rfl, hreq, hg⟩
    obtain ⟨hstring, hdistinct⟩ := hs members rfl
    obtain ⟨-, rfl⟩ := validate_object_eq_ok type_recordKeywords hstring h
    rw [isValid_verdictOf, noViolations_of_fields hr ho hstring hdistinct hreq hg]
    rfl
  · obtain ⟨members, rfl, ha, rfl⟩ := hvalid result hres
    exact ⟨members, _, rfl, rfl, keys_record hr ho ha, fun name => fieldGives_record hr ho ha⟩

def entryRequired : Entries := [(.string "id", .object [(.string "type", .string "number")])]

def entryOptional : Entries :=
  [(.string "kind", .object [(.string "type", .string "string"),
      (.string "default", .string "plain")]),
    (.string "note", .object [(.string "type", .string "string")])]

theorem closed_record_entry :
    Entries.AreFields entryRequired ∧ Entries.AreFields entryOptional ∧
      ∃ completed : Entries,
        (validate (Builder.object .null (some entryRequired) (some entryOptional) [])
          (.object [(.string "note", .string "late"), (.string "id", .int 0)]) .start).result =
            .ok (.valid (.object completed)) ∧
        completed.keys.map Value.text = (["id", "kind", "note"] : List Text) := by
  have hr : Entries.AreFields entryRequired := ⟨by decide, by decide +kernel, by decide +kernel⟩
  have ho : Entries.AreFields entryOptional := ⟨by decide, by decide +kernel, by decide +kernel⟩
  obtain ⟨result, h⟩ := exists_of_isValid
    (show (validate (Builder.object .null (some entryRequired) (some entryOptional) [])
      (.object [(.string "note", .string "late"), (.string "id", .int 0)])
        .start).result.toOption.any Verdict.isValid = true by decide +kernel)
  have hs : ∀ members : Entries, Value.object [(.string "note", .string "late"),
      (.string "id", .int 0)] = .object members →
      members.HasStringKeys ∧ members.HasDistinctKeys := by
    intro members hm
    cases hm
    exact ⟨by decide, by decide +kernel⟩
  have hlaw := @closed_record (some entryRequired) (some entryOptional) _ _ _ (.inl rfl) hr ho rfl
    hs h
  obtain ⟨members, completed, hm, rfl, hkeys, -⟩ := hlaw.2 result rfl
  cases hm
  refine ⟨hr, ho, completed, h, ?_⟩
  rw [hkeys]
  decide +kernel

end Validation

end JsonSchema
