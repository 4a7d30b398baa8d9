import JsonSchema.Proofs.Checks
import JsonSchema.Proofs.Depth

/-!
The members of an object as visits: which member is put to which schema, in which order.

The steps of the object checks share one accumulator. Here each step is the list of its visits,
and what it adds to the accumulator is a fold over the visits that are not passed over.
-/

namespace JsonSchema

open Validation

/-- A member put to a schema: the key under which its result goes, the schema, the member, and
the places of both. -/
structure Visit where
  key : Value
  schema : Value
  value : Value
  place : Place

namespace Visit

/-- The validation of the member has an answer. -/
def Answers (visit : Visit) : Prop :=
  ∃ verdict, (validate visit.schema visit.value visit.place).result = .ok verdict

/-- The answer, if there is one. -/
def verdict (visit : Visit) : Verdict :=
  match (validate visit.schema visit.value visit.place).result with
  | .ok verdict => verdict
  | .error _ => .invalid []

def violations (visit : Visit) : List Violation := visit.verdict.violations

def isSuppressed (visit : Visit) : Bool := !visit.verdict.isValid && visit.value.falsy

lemma verdict_eq {visit : Visit} {verdict : Verdict}
    (h : (validate visit.schema visit.value visit.place).result = .ok verdict) :
    visit.verdict = verdict := by
  unfold Visit.verdict
  rw [h]

lemma violations_of_isValid {visit : Visit} (h : visit.verdict.isValid = true) :
    visit.violations = [] := by
  unfold violations
  cases hv : visit.verdict <;> simp_all [Verdict.isValid, Verdict.violations]

/-- What is left of the violations when refused but falsy members are passed over. -/
lemma flatMap_unsuppressed (visits : List Visit) :
    (visits.filter (!·.isSuppressed)).flatMap violations =
      visits.flatMap fun v => if v.value.falsy then [] else v.violations := by
  induction visits with
  | nil => rfl
  | cons v rest ih =>
    rw [List.filter_cons, List.flatMap_cons, ← ih]
    cases hv : v.verdict.isValid
    · cases hf : v.value.falsy <;> simp [isSuppressed, hv, hf]
    · have := violations_of_isValid hv
      simp [isSuppressed, hv, this]

end Visit

namespace Validation

/-! ### Visits of a step -/

/-- The members of a keyword that maps names to schemas. -/
def childrenOf (keywords : Entries) (name : String) : Entries :=
  (keywords.children name).toOption.getD []

lemma childrenOf_eq {keywords children : Entries} {name : String}
    (h : keywords.children name = .ok children) : childrenOf keywords name = children := by
  simp [childrenOf, h, Except.toOption]

lemma childrenOf_of_object {keywords children : Entries} {name : String}
    (h : keywords.named? name = some (.object children)) : childrenOf keywords name = children := by
  unfold childrenOf Entries.children
  rw [h]
  cases children <;> rfl

lemma named?_of_mem_childrenOf {keywords : Entries} {name : String} {e : Value × Value}
    (h : e ∈ childrenOf keywords name) :
    keywords.named? name = some (.object (childrenOf keywords name)) := by
  cases hc : keywords.children name with
  | error fault => simp [childrenOf, hc, Except.toOption] at h
  | ok children =>
    rw [childrenOf_eq hc] at h ⊢
    rcases Entries.named?_of_children hc with hn | rfl
    · exact hn
    · cases h

/-- A declared property, put to the member of its name or to the absent value. -/
def declaredVisit (members : Entries) (place : Place) (e : Value × Value) : Visit :=
  ⟨e.1, e.2, members.get e.1, place.property "properties" e.1⟩

def declaredVisits (keywords members : Entries) (place : Place) : List Visit :=
  (childrenOf keywords "properties").map (declaredVisit members place)

def matchingVisits (members : Entries) (place : Place) (p : Value × Value) : List Visit :=
  (List.filter (fun e => matchesPattern p.1 e.1.text) members).map fun e =>
    ⟨e.1, p.2, e.2, place.patternProperty p.1 e.1⟩

def patternVisits (keywords members : Entries) (place : Place) : List Visit :=
  (childrenOf keywords "patternProperties").flatMap (matchingVisits members place)

/-- Declared members that are not passed over, then members that match a pattern: the visits
whose keys are no longer additional. -/
def mergedVisits (keywords members : Entries) (place : Place) : List Visit :=
  (declaredVisits keywords members place).filter (!·.isSuppressed)
    ++ patternVisits keywords members place

/-- Whether a key matches no pattern, and is undeclared or declared with a member that is passed
over. -/
def isExtra (keywords members : Entries) (place : Place) (key : Value) : Bool :=
  !(List.any (childrenOf keywords "patternProperties") fun p => matchesPattern p.1 key.text)
    && (declaredVisits keywords members place).all fun v => !Value.same v.key key || v.isSuppressed

/-- The additional members: the defined ones under extra keys. -/
def extras (keywords members : Entries) (place : Place) : Entries :=
  List.filter (fun e => !e.2.isUndefined && isExtra keywords members place e.1) members

/-- The schema of additional members; if there is none, it accepts all. -/
def additionalSchema (keywords : Entries) : Value :=
  (keywords.defined? "additionalProperties").getD (.bool true)

def additionalVisit (place : Place) (schema : Value) (e : Value × Value) : Visit :=
  ⟨e.1, schema, e.2, place.additionalProperty e.1⟩

def additionalVisits (keywords members : Entries) (place : Place) : List Visit :=
  (extras keywords members place).map (additionalVisit place (additionalSchema keywords))

lemma mem_patternVisits {keywords members : Entries} {place : Place} {v : Visit} :
    v ∈ patternVisits keywords members place ↔
      ∃ p ∈ childrenOf keywords "patternProperties", ∃ e ∈ members,
        matchesPattern p.1 (Value.text e.1) = true ∧
          ⟨e.1, p.2, e.2, place.patternProperty p.1 e.1⟩ = v := by
  simp [patternVisits, matchingVisits, and_assoc]

lemma mem_extras {keywords members : Entries} {place : Place} {e : Value × Value} :
    e ∈ extras keywords members place ↔
      e ∈ members ∧ e.2.isUndefined = false ∧ isExtra keywords members place e.1 = true := by
  simp [extras]

end Validation

/-! ### What a step adds -/

namespace Validation.ObjectPart

/-- Takes over what became of some members, one after another. -/
def mergeAll (part : ObjectPart) (visits : List Visit) : ObjectPart :=
  visits.foldl (fun part v => part.merge v.key v.verdict) part

@[simp] lemma mergeAll_nil (part : ObjectPart) : part.mergeAll [] = part := rfl

@[simp] lemma mergeAll_cons (part : ObjectPart) (v : Visit) (visits : List Visit) :
    part.mergeAll (v :: visits) = (part.merge v.key v.verdict).mergeAll visits := rfl

lemma mergeAll_append (part : ObjectPart) (us vs : List Visit) :
    part.mergeAll (us ++ vs) = (part.mergeAll us).mergeAll vs := by
  simp [mergeAll, List.foldl_append]

lemma mergeAll_violations (part : ObjectPart) (visits : List Visit) :
    (part.mergeAll visits).violations = part.violations ++ visits.flatMap Visit.violations := by
  induction visits generalizing part with
  | nil => simp
  | cons v rest ih => rw [mergeAll_cons, ih]; simp [merge, Visit.violations]

lemma mergeAll_consumed (part : ObjectPart) (visits : List Visit) :
    (part.mergeAll visits).consumed = part.consumed ++ visits.map Visit.key := by
  induction visits generalizing part with
  | nil => simp
  | cons v rest ih => rw [mergeAll_cons, ih]; simp [merge]

/-- The members that come out depend on the members that go in, not on the violations. -/
lemma mergeAll_members_congr {part part' : ObjectPart} (h : part.members = part'.members)
    (visits : List Visit) : (part.mergeAll visits).members = (part'.mergeAll visits).members := by
  induction visits generalizing part part' with
  | nil => exact h
  | cons v rest ih => exact ih (by simp only [merge, h])

lemma mergeAll_report_members (part : ObjectPart) (violations : List Violation)
    (visits : List Visit) :
    ((part.report violations).mergeAll visits).members = (part.mergeAll visits).members :=
  mergeAll_members_congr (show (part.report violations).members = part.members from rfl) visits

end Validation.ObjectPart

namespace Validation

/-- A step that passes refused but falsy members over. -/
def mergeVisits : List Visit → ObjectPart → Outcome ObjectPart
  | [], part => return part
  | v :: rest, part => do
    let verdict ← validate v.schema v.value v.place
    if ← liftM (isSuppressed v.value verdict) then mergeVisits rest part
    else mergeVisits rest (part.merge v.key verdict)

lemma mergeProperties_eq (members children : Entries) (place : Place) (part : ObjectPart) :
    mergeProperties validate members place children part =
      mergeVisits (children.map (declaredVisit members place)) part := by
  induction children generalizing part with
  | nil => rfl
  | cons e rest ih =>
    simp only [mergeProperties, List.map_cons, mergeVisits, ih]
    rfl

lemma mergeAdditional_eq (schema : Value) (place : Place) (extra : Entries) (part : ObjectPart) :
    mergeAdditional validate schema place extra part =
      mergeVisits (extra.map (additionalVisit place schema)) part := by
  induction extra generalizing part with
  | nil => rfl
  | cons e rest ih =>
    simp only [mergeAdditional, List.map_cons, mergeVisits, ih]
    rfl

lemma mergeVisits_eq_ok {visits : List Visit} {part part' : ObjectPart}
    (h : (mergeVisits visits part).result = .ok part') :
    (∀ v ∈ visits, v.Answers) ∧ part' = part.mergeAll (visits.filter (!·.isSuppressed)) := by
  induction visits generalizing part with
  | nil => cases h; simp
  | cons v rest ih =>
    obtain ⟨verdict, hv, h⟩ := Outcome.result_bind_eq_ok.1 h
    obtain ⟨b, hb, h⟩ := Outcome.result_bind_eq_ok.1 h
    have ha : v.Answers := ⟨verdict, hv⟩
    have hs : v.isSuppressed = b := by
      rw [isSuppressed_eq_ok hb, Visit.isSuppressed, Visit.verdict_eq hv]
    cases b with
    | true =>
      obtain ⟨hrest, hpart⟩ := ih h
      exact ⟨by simpa [ha] using hrest, by simpa [hs] using hpart⟩
    | false =>
      obtain ⟨hrest, hpart⟩ := ih h
      refine ⟨by simpa [ha] using hrest, ?_⟩
      rw [hpart, List.filter_cons_of_pos (by simp [hs]), ObjectPart.mergeAll_cons,
        Visit.verdict_eq hv]

lemma mergeMatching_eq_ok {pattern child : Value} {place : Place} {members : Entries}
    {part part' : ObjectPart}
    (h : (mergeMatching validate pattern child place members part).result = .ok part') :
    (∀ v ∈ matchingVisits members place (pattern, child), v.Answers) ∧
      part' = part.mergeAll (matchingVisits members place (pattern, child)) := by
  induction members generalizing part with
  | nil => cases h; simp [matchingVisits]
  | cons e rest ih =>
    obtain ⟨key, member⟩ := e
    obtain ⟨b, hb, h⟩ := Outcome.result_bind_eq_ok.1 h
    have hm := (patternOccurs_eq_ok hb).2
    cases b with
    | true =>
      obtain ⟨verdict, hv, h⟩ := Outcome.result_bind_eq_ok.1 h
      let v : Visit := ⟨key, child, member, place.patternProperty pattern key⟩
      have ha : v.Answers := ⟨verdict, hv⟩
      have hverdict : v.verdict = verdict := Visit.verdict_eq hv
      have hcons : matchingVisits ((key, member) :: rest) place (pattern, child) =
          v :: matchingVisits rest place (pattern, child) := by
        simp [matchingVisits, hm, v]
      obtain ⟨hrest, hpart⟩ := ih h
      rw [hcons, ObjectPart.mergeAll_cons, hverdict]
      exact ⟨by simpa [ha] using hrest, hpart⟩
    | false =>
      have hcons : matchingVisits ((key, member) :: rest) place (pattern, child) =
          matchingVisits rest place (pattern, child) := by
        simp [matchingVisits, hm]
      rw [hcons]
      exact ih h

lemma mergePatterns_eq_ok {members children : Entries} {place : Place} {part part' : ObjectPart}
    (h : (mergePatterns validate members place children part).result = .ok part') :
    (∀ v ∈ children.flatMap (matchingVisits members place), v.Answers) ∧
      part' = part.mergeAll (children.flatMap (matchingVisits members place)) := by
  induction children generalizing part with
  | nil => cases h; simp
  | cons e rest ih =>
    obtain ⟨pattern, child⟩ := e
    obtain ⟨next, hn, h⟩ := Outcome.result_bind_eq_ok.1 h
    obtain ⟨ha, rfl⟩ := mergeMatching_eq_ok hn
    obtain ⟨hrest, hpart⟩ := ih h
    rw [List.flatMap_cons, ObjectPart.mergeAll_append]
    exact ⟨fun v hv => (List.mem_append.1 hv).elim (ha v) (hrest v), hpart⟩

/-! ### Additional members -/

lemma any_patternVisits_of_clear {keywords members : Entries} {place : Place} {e : Value × Value}
    (he : e ∈ members) (hk : ∀ f ∈ members, Value.same f.1 e.1 = true → f.1 = e.1) :
    ((patternVisits keywords members place).any fun v => Value.same v.key e.1) =
      List.any (childrenOf keywords "patternProperties") fun p => matchesPattern p.1 e.1.text := by
  rw [Bool.eq_iff_iff]
  simp only [patternVisits, matchingVisits, List.any_flatMap, List.any_map, List.any_eq_true,
    List.mem_filter, Function.comp_apply]
  constructor
  · rintro ⟨p, hp, f, ⟨hf, hm⟩, hsame⟩
    exact ⟨p, hp, hk f hf hsame ▸ hm⟩
  · rintro ⟨p, hp, hm⟩
    exact ⟨p, hp, e, ⟨he, hm⟩, Value.same_self e.1⟩

lemma any_patternVisits {keywords members : Entries} {place : Place} {e : Value × Value}
    (he : e ∈ members) (hs : e.1.isString = true) :
    ((patternVisits keywords members place).any fun v => Value.same v.key e.1) =
      List.any (childrenOf keywords "patternProperties") fun p => matchesPattern p.1 e.1.text :=
  any_patternVisits_of_clear he fun _ _ => (Value.same_of_isString hs).1

/-- The members that no earlier step consumed are the additional ones. -/
lemma extraMembers_eq {keywords members : Entries} {place : Place} {part : ObjectPart}
    (hs : members.HasClearKeys)
    (hc : part.consumed = (mergedVisits keywords members place).map Visit.key) :
    extraMembers members part = extras keywords members place := by
  refine List.filter_congr fun e he => ?_
  have hd : ((declaredVisits keywords members place).all fun v =>
      !Value.same v.key e.1 || v.isSuppressed) =
        !((declaredVisits keywords members place).filter (!·.isSuppressed)).any
          fun v => Value.same v.key e.1 := by
    rw [List.any_filter, List.not_any_eq_all_not]
    congr 1
    funext v
    cases Value.same v.key e.1 <;> cases v.isSuppressed <;> rfl
  rw [ObjectPart.hasConsumed, hc, List.any_map, mergedVisits, List.any_append]
  simp only [Function.comp_def, any_patternVisits_of_clear he (hs e he), isExtra, hd, Bool.not_or]
  rw [Bool.and_comm (!_) (!_)]

end Validation

end JsonSchema
