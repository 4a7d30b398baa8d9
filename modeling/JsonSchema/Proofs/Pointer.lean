import JsonSchema.Proofs.Object.Violations
import JsonSchema.Proofs.Path

/-!
Violations point at what they are about.

Main statement: the places of a violation lead, from where the validation started, to the schema
that refused a value and to that value. Only the name of a member has no place of its own: it is
refused at the place of the object that has the member.

The proof is an induction on the depth of the schema. One node reports violations of its own value,
which stand at the node's places, and violations of the spots below it.
-/

namespace JsonSchema

open Validation Outcome

def Violation.spot (violation : Violation) : Spot :=
  ⟨violation.schema, violation.value, ⟨violation.schemaLocation, violation.valuePath⟩⟩

namespace Spot

/-- A violation of the name of a member: its value is the name, its places are those of the schema
of names and of the object. -/
def NamesMember (s : Spot) (violation : Violation) : Prop :=
  ∃ (keywords members : Entries) (key : Value), s.schema = .object keywords ∧
    s.value = .object members ∧ keywords.named? "type" = some (.string "object") ∧
    keywords.named? "propertyNames" = some violation.schema ∧ key ∈ members.keys ∧
    violation.value = .string key.text ∧
    violation.schemaLocation = s.place.schema.keyword "propertyNames" ∧
    violation.valuePath = s.place.value

/-- A violation is about a part of a spot, or about the name of a member in it. -/
def Has (s : Spot) (violation : Violation) : Prop :=
  s.Reaches violation.spot ∨ ∃ t, s.Reaches t ∧ t.NamesMember violation

/-- All violations that the validation of a spot reports are about parts of it. -/
def Points (s : Spot) : Prop :=
  ∀ verdict, (validate s.schema s.value s.place).result = .ok verdict →
    ∀ violation ∈ verdict.violations, s.Has violation

lemma Has.of_reaches {s t : Spot} {violation : Violation} (h : s.Reaches t)
    (ht : t.Has violation) : s.Has violation := by
  rcases ht with ht | ⟨u, hu, hn⟩
  · exact .inl (h.trans ht)
  · exact .inr ⟨u, h.trans hu, hn⟩

/-- A violation of the value itself. -/
lemma has_of_violationsAt {keywords : Entries} {value : Value} {place : Place}
    {reasons : List Reason} {violation : Violation}
    (h : violation ∈ violationsAt keywords value place reasons) :
    Has ⟨.object keywords, value, place⟩ violation := by
  obtain ⟨reason, -, rfl⟩ := List.mem_map.1 h
  exact .inl (.refl _)

/-! ### Arrays -/

section

variable {keywords : Entries} {kind : ArrayKind} {items : List Value} {place : Place}

lemma below_listElement {schema item : Value} {i : Nat} (hs : keywords.named? "items" = some schema)
    (hi : items[i]? = some item) :
    Below ⟨.object keywords, .array kind items, place⟩ ⟨schema, item, place.listElement i⟩ := by
  refine ⟨_, [.element i], by simp, Value.follow_keyword hs, ?_, rfl⟩
  rw [Value.follow_cons, Value.child?_element, hi]
  rfl

lemma below_tupleElement {kind' : ArrayKind} {schemas : List Value} {schema item : Value} {i : Nat}
    (hs : keywords.named? "items" = some (.array kind' schemas)) (hi : schemas[i]? = some schema)
    (hj : items[i]? = some item) :
    Below ⟨.object keywords, .array kind items, place⟩ ⟨schema, item, place.tupleElement i⟩ := by
  refine ⟨[.member (.string "items"), .element i], [.element i], by simp, ?_, ?_, ?_⟩
  · rw [Value.follow_cons, Value.child?_keyword, hs, Option.bind_some, Value.follow_cons,
      Value.child?_element, hi]
    rfl
  · rw [Value.follow_cons, Value.child?_element, hj]
    rfl
  · simp [Place.extend, Location.extend, Place.tupleElement, Location.keyword, Location.member,
      Location.element, Location.push]

lemma has_of_elements {result : Value × List Violation}
    (ih : ∀ t, Below ⟨.object keywords, .array kind items, place⟩ t → t.Points)
    (h : (elementsPart validate keywords items (.array kind items) place).result = .ok result) :
    ∀ violation ∈ result.2, Has ⟨.object keywords, .array kind items, place⟩ violation := by
  intro violation hv
  unfold elementsPart at h
  split at h
  · cases h; cases hv
  · rename_i hd
    split at h
    · cases h
      exact has_of_violationsAt hv
    · obtain ⟨verdicts, hr, h⟩ := result_bind_eq_ok.1 h
      cases h
      obtain ⟨verdict, hm, hv⟩ := List.mem_flatMap.1 hv
      obtain ⟨i, hi⟩ := List.mem_iff_getElem?.1 hm
      obtain ⟨schema, item, hs, hitem, hr⟩ := tupleVerdicts_eq_ok hr i verdict hi
      rw [Nat.zero_add] at hr
      have hb : Below ⟨.object keywords, .array kind items, place⟩
          ⟨schema, item, place.tupleElement i⟩ :=
        below_tupleElement (Entries.named?_of_defined? hd) hs hitem
      exact .of_reaches hb.reaches (ih _ hb verdict hr violation hv)
  · rename_i hd
    obtain ⟨verdicts, hr, h⟩ := result_bind_eq_ok.1 h
    cases h
    obtain ⟨verdict, hm, hv⟩ := List.mem_flatMap.1 hv
    obtain ⟨i, hi⟩ := List.mem_iff_getElem?.1 hm
    obtain ⟨item, hitem, hr⟩ := listVerdicts_eq_ok hr i verdict hi
    rw [Nat.zero_add] at hr
    have hb : Below ⟨.object keywords, .array kind items, place⟩
        ⟨_, item, place.listElement i⟩ :=
      below_listElement (Entries.named?_of_defined? hd) hitem
    exact .of_reaches hb.reaches (ih _ hb verdict hr violation hv)

end

/-! ### Objects -/

section

variable {keywords members : Entries} {place : Place}

/-- A schema under a keyword that maps names or patterns to schemas. -/
lemma follow_child (hs : (Value.object keywords).EveryObject Entries.HasDistinctKeys)
    {name : String} {e : Value × Value} (he : e ∈ childrenOf keywords name) :
    (Value.object keywords).follow [.member (.string name), .member e.1] = some e.2 := by
  have hn := named?_of_mem_childrenOf he
  have hd : (childrenOf keywords name).HasDistinctKeys := hs _ _ (Value.follow_keyword hn)
  rw [Value.follow_cons, Value.child?_keyword, hn, Option.bind_some, Value.follow_cons,
    Value.child?_member, Entries.get?_of_mem hd he]
  rfl

/-- A member and a schema under a keyword that maps names or patterns to schemas. -/
lemma below_child (hw : WellKeyed ⟨.object keywords, .object members, place⟩) {name : String}
    {e : Value × Value} (he : e ∈ childrenOf keywords name) {key member : Value}
    (hm : members.get? key = some member) {place' : Place}
    (hp : place' = place.extend [.member (.string name), .member e.1] [.member key]) :
    Below ⟨.object keywords, .object members, place⟩ ⟨e.2, member, place'⟩ := by
  refine ⟨_, _, by simp, follow_child hw.schema he, ?_, hp⟩
  rw [Value.follow_cons, Value.child?_member, hm]
  rfl

lemma below_additional {schema key member : Value}
    (hs : keywords.named? "additionalProperties" = some schema)
    (hm : members.get? key = some member) :
    Below ⟨.object keywords, .object members, place⟩
      ⟨schema, member, place.additionalProperty key⟩ := by
  refine ⟨_, [.member key], by simp, Value.follow_keyword hs, ?_, rfl⟩
  rw [Value.follow_cons, Value.child?_member, hm]
  rfl

lemma place_property (name : String) (key : Value) : place.property name key =
    place.extend [.member (.string name), .member key] [.member key] := by
  simp [Place.property, Place.extend, Location.extend, Location.keyword, Location.member,
    Location.push]

lemma place_patternProperty (pattern key : Value) : place.patternProperty pattern key =
    place.extend [.member (.string "patternProperties"), .member pattern] [.member key] := by
  simp [Place.patternProperty, Place.extend, Location.extend, Location.keyword, Location.member,
    Location.push]

lemma has_of_visit {s : Spot} {v : Visit} (hb : s.Below ⟨v.schema, v.value, v.place⟩)
    (ih : ∀ t, s.Below t → t.Points) (ha : v.Answers) {violation : Violation}
    (h : violation ∈ v.violations) : s.Has violation := by
  obtain ⟨verdict, ha⟩ := ha
  rw [Visit.violations, Visit.verdict_eq ha] at h
  exact .of_reaches hb.reaches (ih _ hb verdict ha violation h)

lemma has_of_declared (hw : WellKeyed ⟨.object keywords, .object members, place⟩)
    (ih : ∀ t, Below ⟨.object keywords, .object members, place⟩ t → t.Points) {v : Visit}
    (hv : v ∈ declaredVisits keywords members place) (ha : v.Answers) {violation : Violation}
    (h : violation ∈ if v.value.falsy then [] else v.violations) :
    Has ⟨.object keywords, .object members, place⟩ violation := by
  obtain ⟨e, he, rfl⟩ := List.mem_map.1 hv
  cases hf : (members.get e.1).falsy with
  | true => simp [declaredVisit, hf] at h
  | false =>
    have hd : (members.get e.1).isUndefined = false := by
      rw [← Bool.not_eq_true]
      intro hd
      simp [Value.falsy_of_isUndefined hd] at hf
    have hb := below_child hw he (Entries.get?_of_get hd) (place_property "properties" e.1)
    refine has_of_visit hb ih ha ?_
    simpa [declaredVisit, hf] using h

lemma has_of_pattern (hw : WellKeyed ⟨.object keywords, .object members, place⟩)
    (ih : ∀ t, Below ⟨.object keywords, .object members, place⟩ t → t.Points) {v : Visit}
    (hv : v ∈ patternVisits keywords members place) (ha : v.Answers) {violation : Violation}
    (h : violation ∈ v.violations) :
    Has ⟨.object keywords, .object members, place⟩ violation := by
  obtain ⟨p, hp, e, he, -, rfl⟩ := mem_patternVisits.1 hv
  have hd : members.HasDistinctKeys := hw.value.here.2
  have hb := below_child hw hp (Entries.get?_of_mem hd he) (place_patternProperty p.1 e.1)
  exact has_of_visit hb ih ha h

lemma has_of_additional (hw : WellKeyed ⟨.object keywords, .object members, place⟩)
    (ih : ∀ t, Below ⟨.object keywords, .object members, place⟩ t → t.Points)
    (ha : ∀ v ∈ additionalVisits keywords members place, v.Answers) {violation : Violation}
    (h : violation ∈ additionalViolations keywords members place) :
    Has ⟨.object keywords, .object members, place⟩ violation := by
  have hn : additionalSchema keywords ≠ .bool true →
      keywords.named? "additionalProperties" = some (additionalSchema keywords) := by
    intro hne
    unfold additionalSchema at hne ⊢
    cases hd : keywords.defined? "additionalProperties" with
    | none => simp [hd] at hne
    | some schema => exact Entries.named?_of_defined? hd
  unfold additionalViolations at h
  split at h
  · cases h
  · -- all additional members at once: about the object, and the schema that is false
    rename_i hb
    split at h
    · cases h
    · obtain rfl := List.mem_singleton.1 h
      have hb' := hn (by simp [hb])
      rw [hb] at hb'
      refine .inl ⟨[.member (.string "additionalProperties")], [], ?_, rfl, ?_⟩
      · rw [Value.follow_cons, Value.child?_keyword, hb']
        rfl
      · simp [Violation.spot, Place.extend, Location.extend, Location.keyword, Location.member,
          Location.push]
  · rename_i hnt hnf
    obtain ⟨v, hv, h⟩ := List.mem_flatMap.1 h
    have hav := ha v hv
    obtain ⟨e, he, rfl⟩ := List.mem_map.1 hv
    have hm := Entries.get?_of_mem hw.value.here.2 (mem_extras.1 he).1
    refine has_of_visit (below_additional (hn hnt) hm) ih hav ?_
    split at h
    · cases h
    · exact h

lemma has_of_names (ht : keywords.named? "type" = some (.string "object")) {violation : Violation}
    (h : violation ∈ namesViolations keywords members place) :
    Has ⟨.object keywords, .object members, place⟩ violation := by
  refine .inr ⟨_, .refl _, ?_⟩
  unfold namesViolations at h
  split at h
  · rename_i schema hd
    have hn := Entries.named?_of_defined? hd
    obtain ⟨key, hkey, h⟩ := List.mem_flatMap.1 h
    unfold keyViolations at h
    split at h
    · obtain ⟨reason, -, rfl⟩ := List.mem_map.1 h
      exact ⟨keywords, members, key, rfl, rfl, ht, hn, hkey, rfl, rfl, rfl⟩
    · obtain rfl := List.mem_singleton.1 h
      exact ⟨keywords, members, key, rfl, rfl, ht, hn, hkey, rfl, rfl, rfl⟩
    · cases h
  · cases h

lemma has_of_object (hw : WellKeyed ⟨.object keywords, .object members, place⟩)
    (ht : keywords.named? "type" = some (.string "object"))
    (ih : ∀ t, Below ⟨.object keywords, .object members, place⟩ t → t.Points)
    (ha : ∀ v ∈ objectVisits keywords members place, v.Answers) :
    ∀ violation ∈ objectViolations keywords members place,
      Has ⟨.object keywords, .object members, place⟩ violation := by
  intro violation h
  simp only [objectVisits, List.mem_append] at ha
  simp only [objectViolations, List.mem_append] at h
  rcases h with (((((h | h) | h) | h) | h) | h) | h
  · exact has_of_violationsAt h
  · exact has_of_violationsAt h
  · obtain ⟨v, hv, h⟩ := List.mem_flatMap.1 h
    exact has_of_declared hw ih hv (ha v (.inl (.inl hv))) h
  · obtain ⟨v, hv, h⟩ := List.mem_flatMap.1 h
    exact has_of_pattern hw ih hv (ha v (.inl (.inr hv))) h
  · exact has_of_additional hw ih (fun v hv => ha v (.inr hv)) h
  · exact has_of_names ht h
  · exact has_of_violationsAt h

end

/-! ### Nodes -/

lemma has_of_verdictOf {keywords : Entries} {value built : Value} {place : Place}
    {reasons : List Reason} {more : List Violation}
    (hm : ∀ violation ∈ more, Has ⟨.object keywords, value, place⟩ violation) :
    ∀ violation ∈ (verdictOf built (violationsAt keywords value place reasons ++ more)).violations,
      Has ⟨.object keywords, value, place⟩ violation := by
  intro violation h
  rw [violations_verdictOf] at h
  rcases List.mem_append.1 h with h | h
  · exact has_of_violationsAt h
  · exact hm violation h

lemma has_of_guard {keywords : Entries} {value built : Value} {place : Place}
    {reasons : List Reason} :
    ∀ violation ∈ (verdictOf built (violationsAt keywords value place reasons)).violations,
      Has ⟨.object keywords, value, place⟩ violation := by
  intro violation h
  rw [violations_verdictOf] at h
  exact has_of_violationsAt h

lemma has_of_typed {keywords : Entries} {value : Value} {place : Place} {type : JsonType}
    (hw : WellKeyed ⟨.object keywords, value, place⟩) (hv : value.isUndefined = false)
    (ht : keywords.named? "type" = some (.string type.name))
    (ih : ∀ t, Below ⟨.object keywords, value, place⟩ t → t.Points) {verdict : Verdict}
    (h : (validateTyped validate type keywords value place).result = .ok verdict) :
    ∀ violation ∈ verdict.violations, Has ⟨.object keywords, value, place⟩ violation := by
  have hscalar : ∀ reasons, (scalarVerdict keywords value place reasons).result = .ok verdict →
      ∀ violation ∈ verdict.violations, Has ⟨.object keywords, value, place⟩ violation := by
    intro reasons h
    obtain ⟨reasons, -, h⟩ := result_bind_eq_ok.1 h
    cases h
    exact has_of_guard
  cases type with
  | array =>
    obtain ⟨guard, -, h⟩ := result_bind_eq_ok.1 h
    split at h
    · obtain ⟨result, he, h⟩ := result_bind_eq_ok.1 h
      cases h
      exact has_of_verdictOf (has_of_elements ih he)
    · cases h
      exact has_of_guard
  | object =>
    cases value with
    | object members =>
      have h : (validate (.object keywords) (.object members) place).result = .ok verdict := by
        rw [validate_object ht hv]
        exact h
      obtain ⟨ha, rfl⟩ := validate_object_eq_ok ht hw.value.here.1 h
      rw [violations_verdictOf]
      exact has_of_object hw ht ih ha
    | _ =>
      obtain ⟨guard, -, h⟩ := result_bind_eq_ok.1 h
      cases h
      exact has_of_guard
  | _ => exact hscalar _ h

lemma type_of_ofValue? {declared : Option Value} {type : JsonType}
    (h : declared.bind JsonType.ofValue? = some type) : declared = some (.string type.name) := by
  obtain ⟨v, rfl, hv⟩ := Option.bind_eq_some_iff.1 h
  unfold JsonType.ofValue? at hv
  split at hv
  · rw [JsonType.name_of_ofName? hv]
  · cases hv

/-- One node reports of its spot, where the nodes below it report of the spots there. -/
lemma points_of_below {s : Spot} (hw : s.WellKeyed) (ih : ∀ t, s.Below t → t.Points) :
    s.Points := by
  obtain ⟨schema, value, place⟩ := s
  intro verdict h
  rcases schema_of_answer h with ⟨b, rfl⟩ | ⟨keywords, rfl⟩
  · intro violation hviol
    cases b
    · simp only [validate_false] at h
      cases h
      obtain rfl := List.mem_singleton.1 hviol
      exact .inl (.refl _)
    · simp only [validate_true] at h
      cases h
      cases hviol
  · simp only [validate_keywords, validateKeywords] at h
    split at h
    · rename_i hv
      obtain rfl := Value.eq_undefined hv
      cases h
      intro violation hviol
      unfold absentVerdict at hviol
      split at hviol
      · cases hviol
      · exact has_of_violationsAt hviol
    · rename_i hv
      split at h
      · obtain ⟨_, -, h⟩ := result_bind_eq_ok.1 h
        cases h
        rintro violation ⟨⟩
      · split at h
        · rename_i type ht
          exact has_of_typed hw (by simpa using hv) (type_of_ofValue? ht) ih h
        · cases h
          rintro violation ⟨⟩

/-- All violations are about parts of where the validation started. -/
lemma WellKeyed.points {s : Spot} (hw : s.WellKeyed) : s.Points := by
  induction hn : s.schema.depth using Nat.strongRecOn generalizing s with
  | ind n ih =>
    subst hn
    exact points_of_below hw fun t hb => ih _ hb.depth_lt (hw.of_reaches hb.reaches) rfl

end Spot

namespace Validation

/-- **Violations point at what they are about.** The places of a violation are those where the
validation started, lengthened by a path in the value and one in the schema. The path in the schema
leads to the schema of the violation, and the path in the value to its value; for the name of a
member it leads to the object that has the member. -/
theorem violation_points {schema value : Value} {place : Place}
    {violations : List Violation} (hs : schema.EveryObject Entries.HasDistinctKeys)
    (hv : value.EveryObject fun members => members.HasStringKeys ∧ members.HasDistinctKeys)
    (h : (validate schema value place).result = .ok (.invalid violations)) :
    ∀ violation ∈ violations, ∃ p q : List Step,
      violation.valuePath.text = place.value.text ++ pathText p ∧
      violation.schemaLocation.text = place.schema.text ++ pathText q ∧
      schema.follow q = some violation.schema ∧
      (value.follow p = some violation.value ∨
        ∃ (q' : List Step) (keywords members : Entries) (key : Value),
          q = q' ++ [.member (.string "propertyNames")] ∧
          schema.follow q' = some (.object keywords) ∧
          keywords.named? "type" = some (.string "object") ∧
          value.follow p = some (.object members) ∧ key ∈ members.keys ∧
          violation.value = .string key.text) := by
  intro violation hviol
  have hw : Spot.WellKeyed ⟨schema, value, place⟩ := ⟨hs, hv⟩
  rcases hw.points _ h violation hviol with ⟨q, p, hq, hp, hplace⟩ | ⟨t, ht, hn⟩
  · obtain ⟨hloc, hpath⟩ := Place.mk.inj hplace
    refine ⟨p, q, ?_, ?_, hq, .inl hp⟩
    · rw [hpath, Location.text_extend]
    · rw [hloc, Location.text_extend]
  · obtain ⟨q, p, hq, hp, hplace⟩ := ht
    obtain ⟨keywords, members, key, hschema, hvalue, htype, hnames, hkey, hname, hloc, hpath⟩ := hn
    rw [hschema] at hq
    rw [hvalue] at hp
    refine ⟨p, q ++ [.member (.string "propertyNames")], ?_, ?_, ?_, .inr
      ⟨q, keywords, members, key, rfl, hq, htype, hp, hkey, hname⟩⟩
    · rw [hpath, hplace, Place.extend, Location.text_extend]
    · rw [hloc, hplace, Place.extend, ← Location.text_extend]
      simp [Location.keyword, Location.member, Location.push, Location.extend]
    · rw [Value.follow_append, hq, Option.bind_some, Value.follow_cons, Value.child?_keyword,
        hnames]
      rfl

def taggedSchema : Value :=
  .object [(.string "type", .string "object"),
    (.string "properties", .object [(.string "tags", .object [(.string "type", .string "array"),
      (.string "items", .object [(.string "type", .string "string")])])]),
    (.string "propertyNames", .object [(.string "maxLength", .int 4)])]

def taggedValue : Value :=
  .object [(.string "tags", .list [.string "new", .int 7]), (.string "remark", .null)]

theorem violation_points_tagged :
    taggedSchema.EveryObject Entries.HasDistinctKeys ∧
      (taggedValue.EveryObject fun members => members.HasStringKeys ∧ members.HasDistinctKeys) ∧
      ∃ violations, (validate taggedSchema taggedValue .start).result = .ok (.invalid violations) ∧
        violations.map (fun v => (v.schemaLocation.text, v.valuePath.text)) =
          ([("#/properties/tags/items", "#/tags/1"), ("#/propertyNames", "#")] :
            List (Text × Text)) ∧
        ∀ violation ∈ violations, ∃ p q : List Step,
          violation.valuePath.text = "#" ++ pathText p ∧
          violation.schemaLocation.text = "#" ++ pathText q ∧
          taggedSchema.follow q = some violation.schema ∧ (taggedValue.follow p).isSome = true := by
  have hs : taggedSchema.EveryObject Entries.HasDistinctKeys := by
    have hitems : Value.EveryObject Entries.HasDistinctKeys
        (.object [(.string "type", .string "string")]) :=
      .object (by decide +kernel) (by simpa using .leaf rfl)
    have htags : Value.EveryObject Entries.HasDistinctKeys
        (.object [(.string "type", .string "array"),
          (.string "items", .object [(.string "type", .string "string")])]) :=
      .object (by decide +kernel) (by simpa using ⟨.leaf rfl, hitems⟩)
    have hnames : Value.EveryObject Entries.HasDistinctKeys
        (.object [(.string "maxLength", .int 4)]) :=
      .object (by decide +kernel) (by simpa using .leaf rfl)
    refine .object (by decide +kernel) ?_
    simpa using ⟨.leaf rfl, .object (by decide +kernel) (by simpa using htags), hnames⟩
  have hv : taggedValue.EveryObject fun members =>
      members.HasStringKeys ∧ members.HasDistinctKeys := by
    refine .object (by decide +kernel) ?_
    simpa using ⟨.array (by simpa using ⟨.leaf rfl, .leaf rfl⟩), .leaf rfl⟩
  have hok : (validate taggedSchema taggedValue .start).result.toOption.any (fun verdict =>
      verdict.violations.map (fun v => (v.schemaLocation.text, v.valuePath.text)) =
        ([("#/properties/tags/items", "#/tags/1"), ("#/propertyNames", "#")] :
          List (Text × Text))) = true := by
    decide +kernel
  cases h : (validate taggedSchema taggedValue .start).result with
  | error fault => simp [h, Except.toOption] at hok
  | ok verdict =>
    cases verdict with
    | valid w => simp [h, Except.toOption, Verdict.violations] at hok
    | invalid violations =>
      refine ⟨hs, hv, violations, rfl, ?_, fun violation hviol => ?_⟩
      · rw [h] at hok
        exact of_decide_eq_true hok
      · obtain ⟨p, q, hpath, hloc, hq, hp⟩ := violation_points hs hv h violation hviol
        refine ⟨p, q, hpath, hloc, hq, ?_⟩
        rcases hp with hp | ⟨q', keywords, members, key, -, -, -, hp, -⟩ <;> rw [hp] <;> rfl

end Validation

end JsonSchema
