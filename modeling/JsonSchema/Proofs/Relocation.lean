import JsonSchema.Proofs.Keyword
import JsonSchema.Proofs.Object.Settled
import JsonSchema.Proofs.Placement

/-!
A validation that starts elsewhere differs in the beginning of its locations alone.

Main statement: it ends as the one that starts at the hash signs does, with the same faults up to
their place and with the same value, or with the same violations in the same order, whose locations
go on in the same way behind other beginnings. A node takes the violations of its parts over as
they are, so what it reports of a part is what the part alone would report, moved to its place.
-/

namespace JsonSchema

open Validation Outcome

/-- What a fault says, wherever a defect stands. -/
def Fault.unplaced : Fault → Fault
  | schema defect _ => schema defect .here
  | f => f

@[simp] lemma Fault.message_unplaced (f : Fault) : f.unplaced.message = f.message := by
  cases f <;> rfl

/-- The same violation found from a place: its locations begin like those of the place where those
of the other one begin with a hash sign. -/
structure Violation.MovedTo (place : Place) (v w : Violation) : Prop where
  value : w.value = v.value
  schema : w.schema = v.schema
  reason : w.reason = v.reason
  schemaLocation : ∃ rest, v.schemaLocation.text = "#" ++ rest ∧
    w.schemaLocation.text = place.schema.text ++ rest
  valuePath : ∃ rest, v.valuePath.text = "#" ++ rest ∧
    w.valuePath.text = place.value.text ++ rest

/-! ### From the start to a place -/

lemma Location.Below.text {m l' m' : Location} (h : Below .here m l' m') :
    ∃ rest, l'.text = "#" ++ rest ∧ m'.text = m.text ++ rest := by
  obtain ⟨steps, rfl, rfl⟩ := h
  exact ⟨pathText steps, text_extend .here steps, text_extend m steps⟩

lemma unplaced_of_faults {p q : Place} {f g : Fault} (h : (relocation p q).Faults f g) :
    g.unplaced = f.unplaced := by
  cases h <;> rfl

lemma movedTo_of_violations {place : Place} {v w : Violation}
    (h : (relocation .start place).Violations v w) : v.MovedTo place w where
  value := h.value.symm
  schema := (h.schema.elim id id : v.schema = w.schema).symm
  reason := h.reason.symm
  schemaLocation := h.places.schema.text
  valuePath := h.places.value.text

lemma validate_moved (schema value : Value) (place : Place) :
    Related (fun f g => g.unplaced = f.unplaced) (Verdict.Rel (Violation.MovedTo place))
      (validate schema value .start).result (validate schema value place).result :=
  (validate_relocated schema value .start place).result.mono
    (fun _ _ => unplaced_of_faults) fun _ _ h => h.rel fun _ _ => movedTo_of_violations

/-! ### Parts of a value -/

namespace Spot

/-- One spot takes over what another one reports: an object what is reported of its members, except
of falsy ones that no pattern puts to a schema, and of its keys; an array what is reported of its
elements. -/
inductive TakesOver : Spot → Spot → Prop where
  | declared {keywords members : Entries} {place : Place} {name child : Value}
    (ht : keywords.declaredType = .one .object) (hk : members.HasClearKeys)
    (hc : (name, child) ∈ childrenOf keywords "properties")
    (hf : (members.get name).falsy = false) :
    TakesOver ⟨.object keywords, .object members, place⟩
      ⟨child, members.get name, place.property "properties" name⟩
  | matching {keywords members : Entries} {place : Place} {pattern child key member : Value}
    (ht : keywords.declaredType = .one .object) (hk : members.HasClearKeys)
    (hc : (pattern, child) ∈ childrenOf keywords "patternProperties")
    (hm : (key, member) ∈ members) (ho : matchesPattern pattern key.text = true) :
    TakesOver ⟨.object keywords, .object members, place⟩
      ⟨child, member, place.patternProperty pattern key⟩
  | additional {keywords members : Entries} {place : Place} {key member : Value}
    (ht : keywords.declaredType = .one .object) (hk : members.HasClearKeys)
    (hs : additionalSchema keywords ≠ .bool false)
    (hm : (key, member) ∈ extras keywords members place) (hf : member.falsy = false) :
    TakesOver ⟨.object keywords, .object members, place⟩
      ⟨additionalSchema keywords, member, place.additionalProperty key⟩
  | named {keywords members : Entries} {place : Place} {names key : Value}
    (ht : keywords.declaredType = .one .object) (hk : members.HasClearKeys)
    (hs : keywords.defined? "propertyNames" = some names)
    (hn : ∀ checks, names = .object checks → Entries.declaredType checks = .one .string)
    (hm : key ∈ members.keys) :
    TakesOver ⟨.object keywords, .object members, place⟩
      ⟨names, .string key.text, place.keyword "propertyNames"⟩
  | listed {keywords : Entries} {kind : ArrayKind} {items : List Value} {place : Place}
    {schema item : Value} {index : Nat} (ht : keywords.declaredType = .one .array)
    (hs : keywords.defined? "items" = some schema) (ha : schema.isArray = false)
    (hi : items[index]? = some item) :
    TakesOver ⟨.object keywords, .array kind items, place⟩
      ⟨schema, item, place.listElement index⟩
  | positioned {keywords : Entries} {kind kind' : ArrayKind} {schemas items : List Value}
    {place : Place} {schema item : Value} {index : Nat}
    (ht : keywords.declaredType = .one .array)
    (hs : keywords.defined? "items" = some (.array kind' schemas))
    (hl : schemas.length ≤ items.length) (hc : schemas[index]? = some schema)
    (hi : items[index]? = some item) :
    TakesOver ⟨.object keywords, .array kind items, place⟩
      ⟨schema, item, place.tupleElement index⟩

end Spot

lemma infix_flatMap {α β : Type} (f : α → List β) {a : α} {as : List α} (h : a ∈ as) :
    f a <:+: as.flatMap f :=
  List.infix_of_mem_flatten (List.mem_map_of_mem h)

/-- Where falsy values are passed over, every other one is reported. -/
lemma infix_of_mem_visits {visits : List Visit} {v : Visit} (hv : v ∈ visits)
    (hf : v.value.falsy = false) :
    v.violations <:+: visits.flatMap fun v => if v.value.falsy then [] else v.violations := by
  have hin := infix_flatMap (fun v => if v.value.falsy then [] else v.violations) hv
  simpa only [hf, Bool.false_eq_true, if_false] using hin

/-! ### What an object takes over -/

section

variable {keywords members : Entries} {place : Place}

/-- A schema of names that is one of strings is put to a key as to any string. -/
lemma nameVerdict_eq {names : Value}
    (hn : ∀ checks, names = .object checks → Entries.declaredType checks = .one .string)
    (key : Value) (place : Place) :
    nameVerdict validate names key place = validate names (.string key.text) place := by
  cases names with
  | object checks =>
    rw [validate_keywords, validateKeywords_eq, hn checks rfl]
    rfl
  | _ => rfl

/-- What the members, the additional members and the keys add to the violations of an object. -/
lemma infix_objectViolations {vs : List Violation}
    (h : vs ∈ [(declaredVisits keywords members place).flatMap fun v =>
        if v.value.falsy then [] else v.violations,
      (patternVisits keywords members place).flatMap Visit.violations,
      additionalViolations keywords members place, namesViolations keywords members place]) :
    vs <:+: objectViolations keywords members place := by
  unfold objectViolations
  simp only [List.mem_cons, List.not_mem_nil, or_false] at h
  refine List.infix_append_of_infix_left ?_
  rcases h with rfl | rfl | rfl | rfl
  · refine List.infix_append_of_infix_left (List.infix_append_of_infix_left
      (List.infix_append_of_infix_left ?_))
    exact List.infix_append_right
  · exact List.infix_append_of_infix_left (List.infix_append_of_infix_left List.infix_append_right)
  · exact List.infix_append_of_infix_left List.infix_append_right
  · exact List.infix_append_right

/-- Where not all of them are refused together, each additional member that is not falsy is reported
on its own. -/
lemma additionalViolations_eq (hs : additionalSchema keywords ≠ .bool false) :
    additionalViolations keywords members place =
      (additionalVisits keywords members place).flatMap fun v =>
        if v.value.falsy then [] else v.violations := by
  unfold additionalViolations
  split
  · -- `true` refuses no member
    rename_i hb
    refine (List.flatMap_eq_nil_iff.2 fun v hv => ?_).symm
    obtain ⟨e, -, rfl⟩ := List.mem_map.1 hv
    rw [hb, Visit.violations, verdict_additionalVisit_true]
    exact ite_self _
  · exact absurd ‹_› hs
  · rfl

/-- A member that is visited and not passed over is reported as its own verdict reports. -/
lemma exists_verdict_of_visit {v : Visit} {verdict : Verdict}
    (ht : keywords.declaredType = .one .object) (hk : members.HasClearKeys)
    (h : (validate (.object keywords) (.object members) place).result = .ok verdict)
    (hv : v ∈ objectVisits keywords members place)
    (hin : v.violations <:+: objectViolations keywords members place) :
    ∃ own, (validate v.schema v.value v.place).result = .ok own ∧
      own.violations <:+: verdict.violations := by
  obtain ⟨ha, rfl⟩ := validate_object_of_clear (Entries.named?_of_declaredType ht) hk h
  obtain ⟨own, ho⟩ := ha v hv
  refine ⟨own, ho, ?_⟩
  rwa [violations_verdictOf, ← Visit.verdict_eq ho]

/-- The key was put to the checks of strings; where they are what its schema asks too, they report
as its own verdict does. -/
lemma exists_verdict_of_name {names key : Value} {verdict : Verdict}
    (ht : keywords.declaredType = .one .object) (hk : members.HasClearKeys)
    (hs : keywords.defined? "propertyNames" = some names)
    (hn : ∀ checks, names = .object checks → Entries.declaredType checks = .one .string)
    (hm : key ∈ members.keys)
    (h : (validate (.object keywords) (.object members) place).result = .ok verdict) :
    ∃ own, (validate names (.string key.text) (place.keyword "propertyNames")).result = .ok own ∧
      own.violations <:+: verdict.violations := by
  have hobject := Entries.named?_of_declaredType ht
  obtain ⟨e, he, rfl⟩ := List.mem_map.1 hm
  obtain ⟨own, ho⟩ := ((hasAnswer_validate_object hobject hk).1 ⟨verdict, h⟩).names names hs e he
  have hviolations := nameVerdict_eq_ok ho
  obtain ⟨-, rfl⟩ := validate_object_of_clear hobject hk h
  rw [nameVerdict_eq hn] at ho
  refine ⟨own, ho, ?_⟩
  rw [violations_verdictOf, hviolations]
  have hnames : namesViolations keywords members place <:+:
      objectViolations keywords members place := infix_objectViolations (by simp)
  refine .trans ?_ hnames
  simp only [namesViolations, hs]
  exact infix_flatMap _ hm

end

/-! ### What an array takes over -/

section

variable {keywords : Entries} {kind : ArrayKind} {items : List Value} {place : Place}

/-- The violations of the elements end those of an array. -/
lemma exists_elementsPart {verdict : Verdict} (ht : keywords.declaredType = .one .array)
    (h : (validate (.object keywords) (.array kind items) place).result = .ok verdict) :
    ∃ part, (elementsPart validate keywords items (.array kind items) place).result = .ok part ∧
      part.2 <:+: verdict.violations := by
  rw [validate_array ht rfl] at h
  obtain ⟨guard, -, h⟩ := result_bind_eq_ok.1 h
  obtain ⟨⟨result, violations⟩, he, h⟩ := result_bind_eq_ok.1 h
  cases h
  refine ⟨_, he, ?_⟩
  rw [violations_verdictOf]
  exact List.infix_append_right

variable {item : Value} {index : Nat} {verdict : Verdict}
  (ht : keywords.declaredType = .one .array) (hi : items[index]? = some item)
  (h : (validate (.object keywords) (.array kind items) place).result = .ok verdict)

include ht hi h

lemma exists_verdict_of_listed {schema : Value} (hs : keywords.defined? "items" = some schema)
    (ha : schema.isArray = false) :
    ∃ own, (validate schema item (place.listElement index)).result = .ok own ∧
      own.violations <:+: verdict.violations := by
  obtain ⟨part, hpart, hin⟩ := exists_elementsPart ht h
  rw [elementsPart_of_one hs ha] at hpart
  obtain ⟨verdicts, hv, hpart⟩ := result_bind_eq_ok.1 hpart
  cases hpart
  have hindex : index < verdicts.length := by
    rw [length_listVerdicts hv]
    exact (List.getElem?_eq_some_iff.1 hi).1
  obtain ⟨item', hi', ho⟩ := listVerdicts_eq_ok hv index _ (List.getElem?_eq_getElem hindex)
  obtain rfl := Option.some.inj (hi.symm.trans hi')
  rw [Nat.zero_add] at ho
  exact ⟨_, ho, .trans (infix_flatMap Verdict.violations (List.getElem_mem hindex)) hin⟩

lemma exists_verdict_of_positioned {kind' : ArrayKind} {schemas : List Value} {schema : Value}
    (hs : keywords.defined? "items" = some (.array kind' schemas))
    (hl : schemas.length ≤ items.length) (hc : schemas[index]? = some schema) :
    ∃ own, (validate schema item (place.tupleElement index)).result = .ok own ∧
      own.violations <:+: verdict.violations := by
  obtain ⟨part, hpart, hin⟩ := exists_elementsPart ht h
  rw [elementsPart_of_tuple hs, if_neg (Nat.not_lt.2 hl)] at hpart
  obtain ⟨verdicts, hv, hpart⟩ := result_bind_eq_ok.1 hpart
  cases hpart
  have hindex : index < verdicts.length := by
    rw [length_tupleVerdicts hv]
    exact Nat.lt_min.2 ⟨(List.getElem?_eq_some_iff.1 hc).1, (List.getElem?_eq_some_iff.1 hi).1⟩
  obtain ⟨schema', item', hc', hi', ho⟩ :=
    tupleVerdicts_eq_ok hv index _ (List.getElem?_eq_getElem hindex)
  obtain rfl := Option.some.inj (hc.symm.trans hc')
  obtain rfl := Option.some.inj (hi.symm.trans hi')
  rw [Nat.zero_add] at ho
  exact ⟨_, ho, .trans (infix_flatMap Verdict.violations (List.getElem_mem hindex)) hin⟩

end

/-- A spot that takes another one over has a verdict only where the other one has, and the
violations of the other one stand together among its own. -/
lemma Spot.TakesOver.violations {s t : Spot} (hst : s.TakesOver t) {verdict : Verdict}
    (h : (validate s.schema s.value s.place).result = .ok verdict) :
    ∃ own, (validate t.schema t.value t.place).result = .ok own ∧
      own.violations <:+: verdict.violations := by
  -- What the part reports is one of the lists that a step of the node joins.
  cases hst with
  | @declared keywords members place name child ht hk hc hf =>
    have hv : declaredVisit members place (name, child) ∈ declaredVisits keywords members place :=
      List.mem_map_of_mem hc
    refine exists_verdict_of_visit ht hk h (List.mem_append_left _ (List.mem_append_left _ hv)) ?_
    exact .trans (infix_of_mem_visits hv hf) (infix_objectViolations (by simp))
  | @matching keywords members place pattern child key member ht hk hc hm ho =>
    have hv : ⟨key, child, member, place.patternProperty pattern key⟩ ∈
        patternVisits keywords members place :=
      mem_patternVisits.2 ⟨_, hc, _, hm, ho, rfl⟩
    refine exists_verdict_of_visit ht hk h (List.mem_append_left _ (List.mem_append_right _ hv)) ?_
    exact .trans (infix_flatMap Visit.violations hv) (infix_objectViolations (by simp))
  | @additional keywords members place key member ht hk hs hm hf =>
    have hv : additionalVisit place (additionalSchema keywords) (key, member) ∈
        additionalVisits keywords members place := List.mem_map_of_mem hm
    refine exists_verdict_of_visit ht hk h (List.mem_append_right _ hv) ?_
    have hadditional : additionalViolations keywords members place <:+:
        objectViolations keywords members place := infix_objectViolations (by simp)
    rw [additionalViolations_eq hs] at hadditional
    exact .trans (infix_of_mem_visits hv hf) hadditional
  | named ht hk hs hn hm => exact exists_verdict_of_name ht hk hs hn hm h
  | listed ht hs ha hi => exact exists_verdict_of_listed ht hi h hs ha
  | positioned ht hs hl hc hi => exact exists_verdict_of_positioned ht hi h hs hl hc

/-- **Locations only label.** At every place, and against every schema, a validation ends as it does
from the hash signs: in the same fault, up to the place of a defect, with the same value, or with
the same violations in the same order, whose locations begin with those of the place. So what a
spot reports of another one that it takes over is what that one reports from the hash signs, moved
to its place. -/
theorem validate_at_place (schema value : Value) (place : Place) :
    Related (fun f g => g.unplaced = f.unplaced) (Verdict.Rel (Violation.MovedTo place))
        (validate schema value .start).result (validate schema value place).result ∧
      ∀ part, Spot.TakesOver ⟨schema, value, place⟩ part → ∀ verdict,
        (validate schema value place).result = .ok verdict →
        ∃ own moved, (validate part.schema part.value .start).result = .ok own ∧
          List.Forall₂ (Violation.MovedTo part.place) own.violations moved ∧
          moved <:+: verdict.violations := by
  refine ⟨validate_moved schema value place, fun part hpart verdict h => ?_⟩
  obtain ⟨there, hthere, hin⟩ := hpart.violations h
  cases hm : (validate part.schema part.value .start).result with
  | error fault =>
    have hmoved := validate_moved part.schema part.value part.place
    rw [hm, hthere] at hmoved
    cases hmoved
  | ok own =>
    have hmoved := validate_moved part.schema part.value part.place
    rw [hm, hthere] at hmoved
    cases hmoved with
    | ok hmoved => exact ⟨own, there.violations, rfl, hmoved.forall₂, hin⟩

def tagsKeywords : Entries :=
  [(.string "type", .string "array"),
    (.string "items", .object [(.string "type", .string "string")])]

def crateKeywords : Entries :=
  [(.string "type", .string "object"),
    (.string "properties", .object [(.string "tags", .object tagsKeywords)]),
    (.string "propertyNames", .object [(.string "maxLength", .int 4)])]

def crateMembers : Entries :=
  [(.string "remark", .null), (.string "tags", .list [.string "new", .int 7])]

def namedPlace : Place := ⟨.start "config", .start "answer"⟩

theorem validate_at_place_crate : ∃ verdict own moved,
    (validate (.object crateKeywords) (.object crateMembers) namedPlace).result = .ok verdict ∧
    verdict.violations.map (fun v => (v.schemaLocation.text, v.valuePath.text)) =
      ([("config/properties/tags/items", "answer/tags/1"), ("config/propertyNames", "answer")] :
        List (Text × Text)) ∧
    (validate (.object tagsKeywords) (.list [.string "new", .int 7]) .start).result = .ok own ∧
    own.violations.map (fun v => (v.schemaLocation.text, v.valuePath.text)) =
      ([("#/items", "#/1")] : List (Text × Text)) ∧
    List.Forall₂ (Violation.MovedTo (namedPlace.property "properties" (.string "tags")))
      own.violations moved ∧ moved <:+: verdict.violations := by
  have htags : crateMembers.get (.string "tags") = .list [.string "new", .int 7] := by
    simp [crateMembers, Entries.get, Entries.get?_cons]
  have hpart : Spot.TakesOver ⟨.object crateKeywords, .object crateMembers, namedPlace⟩
      ⟨.object tagsKeywords, .list [.string "new", .int 7],
        namedPlace.property "properties" (.string "tags")⟩ := by
    rw [← htags]
    refine .declared (Entries.declaredType_of_named? (by simp [crateKeywords, JsonType.name]))
      (Entries.HasStringKeys.clear (by decide)) ?_ (by decide +kernel)
    have hchildren : childrenOf crateKeywords "properties" =
        [(.string "tags", .object tagsKeywords)] :=
      childrenOf_of_object (by simp [crateKeywords])
    exact hchildren ▸ List.mem_singleton_self _
  have hverdict : (validate (.object crateKeywords) (.object crateMembers)
      namedPlace).result.toOption.any (fun verdict =>
        verdict.violations.map (fun v => (v.schemaLocation.text, v.valuePath.text)) =
          ([("config/properties/tags/items", "answer/tags/1"),
            ("config/propertyNames", "answer")] : List (Text × Text))) = true := by
    decide +kernel
  have howned : (validate (.object tagsKeywords) (.list [.string "new", .int 7])
      .start).result.toOption.any (fun own =>
        own.violations.map (fun v => (v.schemaLocation.text, v.valuePath.text)) =
          ([("#/items", "#/1")] : List (Text × Text))) = true := by
    decide +kernel
  obtain ⟨verdict, h, htexts⟩ := exists_of_any hverdict
  obtain ⟨own, moved, hown, hmoved, hin⟩ := (validate_at_place _ _ _).2 _ hpart verdict h
  rw [hown] at howned
  exact ⟨verdict, own, moved, h, of_decide_eq_true htexts, hown, of_decide_eq_true howned, hmoved,
    hin⟩

end JsonSchema
