import JsonSchema.Proofs.Object.Violations

/-!
When the checks of an object have an answer.

Each step of the object checks has an answer if all its parts have one, whatever the order of its
parts, and no step can make up for another one. Main statement: an object node has a verdict on an
object if and only if each of nine conditions holds, one for each step.
-/

namespace JsonSchema

open Validation

namespace Visit

/-- The validation of the member has an answer, and so has the question whether a refused member
is falsy. -/
def Settles (visit : Visit) : Prop :=
  visit.Answers ∧ (visit.verdict.isValid = true ∨ HasAnswer visit.value.isFalsy)

lemma settles_of_suppressed {visit : Visit} {verdict : Verdict} {b : Bool}
    (h : (validate visit.schema visit.value visit.place).result = .ok verdict)
    (hb : Validation.isSuppressed visit.value verdict = .ok b) : visit.Settles := by
  refine ⟨⟨verdict, h⟩, ?_⟩
  unfold Validation.isSuppressed at hb
  rw [verdict_eq h]
  split at hb
  · exact .inl ‹_›
  · exact .inr ⟨b, hb⟩

lemma Settles.suppressed {visit : Visit} (h : visit.Settles) :
    Validation.isSuppressed visit.value visit.verdict = .ok visit.isSuppressed := by
  have hb : ∃ b, Validation.isSuppressed visit.value visit.verdict = .ok b := by
    unfold Validation.isSuppressed
    split
    · exact ⟨false, rfl⟩
    · rename_i hv
      exact h.2.resolve_left hv
  obtain ⟨b, hb⟩ := hb
  rw [hb, isSuppressed_eq_ok hb, Visit.isSuppressed]

lemma Answers.result_eq {visit : Visit} (h : visit.Answers) :
    (validate visit.schema visit.value visit.place).result = .ok visit.verdict := by
  obtain ⟨verdict, h⟩ := h
  rw [h, verdict_eq h]

end Visit

namespace Validation

open Outcome

variable {keywords members : Entries} {place : Place}

/-! ### Required members -/

lemma hasAnswer_missingNames (defined : List Value) {names : List Value}
    (h : ∀ n ∈ names, n.isString = true) : HasAnswer (missingNames defined names) := by
  induction names with
  | nil => exact hasAnswer_ok _
  | cons n rest ih =>
    obtain ⟨s, rfl⟩ := Value.isString_iff.1 (h n (by simp))
    obtain ⟨missing, hm⟩ := ih fun m hm => h m (by simp [hm])
    exact ⟨_, by simp only [missingNames, Value.isKey, hm]; rfl⟩

lemma hasAnswer_listedNames {names : List Value} :
    HasAnswer (listedNames names) ↔ ∀ n ∈ names, n.isString = true := by
  induction names with
  | nil => simp [listedNames]
  | cons n rest ih =>
    cases n with
    | string s =>
      rw [List.forall_mem_cons, ← ih, listedNames, hasAnswer_bind_of fun _ _ => hasAnswer_pure _]
      simp [Value.isString]
    | _ => simp [listedNames, Value.isString]

def missingReasons (members : Entries) (names : List Value) : Reasons := do
  let missing ← missingNames (definedKeys members) names
  if missing.isEmpty then return [] else return [.missing (← listedNames missing)]

/-- What is missing of names that are strings can always be listed. -/
lemma hasAnswer_missingReasons (members : Entries) {names : List Value}
    (h : ∀ n ∈ names, n.isString = true) : HasAnswer (missingReasons members names) := by
  obtain ⟨missing, hm⟩ := hasAnswer_missingNames (definedKeys members) h
  refine hasAnswer_bind.2 ⟨missing, hm, ?_⟩
  obtain rfl := missingNames_eq_ok hm
  split
  · exact hasAnswer_pure _
  · refine (hasAnswer_bind_of fun _ _ => hasAnswer_pure _).2 (hasAnswer_listedNames.2 ?_)
    exact fun n hn => h n (List.mem_filter.1 hn).1

/-- Only strings can be required of an object whose keys are strings: other names are missing, and
cannot be listed. -/
lemma hasAnswer_missing_iff (hs : members.HasStringKeys) {names : List Value} :
    HasAnswer (missingReasons members names) ↔ ∀ n ∈ names, n.isString = true := by
  constructor
  · intro h n hn
    obtain ⟨missing, hm, h⟩ := hasAnswer_bind.1 h
    obtain rfl := missingNames_eq_ok hm
    by_cases hd : hasDefined members n = true
    · obtain ⟨e, he, hsame⟩ := List.any_eq_true.1 hd
      simp only [Bool.and_eq_true] at hsame
      obtain ⟨s, hk⟩ := Value.isString_iff.1 (hs e he)
      rw [hk, Value.string_same] at hsame
      rw [hsame.2]
      rfl
    · have hmem : n ∈ names.filter fun name => !hasDefined members name := by simp [hn, hd]
      split at h
      · rename_i hempty
        rw [List.isEmpty_iff.1 hempty] at hmem
        cases hmem
      · rw [hasAnswer_bind_of fun _ _ => hasAnswer_pure _, hasAnswer_listedNames] at h
        exact h n hmem
  · exact hasAnswer_missingReasons members

lemma missingNames_eq_nil {defined names : List Value} : missingNames defined names = .ok [] ↔
    ∀ n ∈ names, n.isKey = true ∧ (defined.any fun k => Value.same k n) = true := by
  induction names with
  | nil => simp [missingNames]
  | cons n rest ih =>
    rw [List.forall_mem_cons, ← ih, missingNames]
    cases hk : n.isKey with
    | false => simp
    | true =>
      cases hd : defined.any fun k => Value.same k n with
      | false => cases missingNames defined rest <;> simp [bind, Except.bind, pure, Except.pure]
      | true => cases missingNames defined rest <;> simp [bind, Except.bind, pure, Except.pure]

/-- Nothing is missing where every name has a defined member. -/
lemma missingReasons_eq_nil {names : List Value} : missingReasons members names = .ok [] ↔
    ∀ n ∈ names, n.isKey = true ∧ hasDefined members n = true := by
  simp only [← any_definedKeys, ← missingNames_eq_nil]
  unfold missingReasons
  cases missingNames (definedKeys members) names with
  | error f => simp [bind, Except.bind]
  | ok missing =>
    cases missing with
    | nil => simp [bind, Except.bind, pure, Except.pure]
    | cons n rest =>
      simp only [bind, Except.bind, List.isEmpty_cons, Bool.false_eq_true, if_false]
      cases hl : listedNames (n :: rest) <;> simp [pure, Except.pure]

/-! ### Steps -/

lemma hasAnswer_mergeVisits {visits : List Visit} {part : ObjectPart} :
    HasAnswer (mergeVisits visits part).result ↔ ∀ v ∈ visits, v.Settles := by
  induction visits generalizing part with
  | nil => simp [mergeVisits]
  | cons v rest ih =>
    rw [List.forall_mem_cons, mergeVisits, Outcome.hasAnswer_bind]
    constructor
    · rintro ⟨verdict, hv, h⟩
      obtain ⟨b, hb, h⟩ := Outcome.hasAnswer_bind.1 h
      refine ⟨Visit.settles_of_suppressed hv hb, ?_⟩
      cases b <;> exact ih.1 h
    · rintro ⟨hv, hrest⟩
      refine ⟨v.verdict, hv.1.result_eq, ?_⟩
      refine Outcome.hasAnswer_bind.2 ⟨v.isSuppressed, hv.suppressed, ?_⟩
      split <;> exact ih.2 hrest

/-- The pattern can be looked for in a key, and if it is found the member has a verdict. -/
def MatchSettles (place : Place) (p e : Value × Value) : Prop :=
  HasAnswer (patternOccurs p.1 (Value.text e.1)
      ((place.schema.keyword "patternProperties").member p.1)) ∧
    (matchesPattern p.1 (Value.text e.1) = true →
      Visit.Answers ⟨e.1, p.2, e.2, place.patternProperty p.1 e.1⟩)

lemma hasAnswer_mergeMatching {p : Value × Value} {part : ObjectPart} :
    HasAnswer (mergeMatching validate p.1 p.2 place members part).result ↔
      ∀ e ∈ members, MatchSettles place p e := by
  induction members generalizing part with
  | nil => simp [mergeMatching]
  | cons e rest ih =>
    obtain ⟨key, member⟩ := e
    rw [List.forall_mem_cons, mergeMatching, Outcome.hasAnswer_bind]
    constructor
    · rintro ⟨b, hb, h⟩
      have hm := (patternOccurs_eq_ok hb).2
      cases b with
      | false => exact ⟨⟨⟨_, hb⟩, fun ht => by simp [hm] at ht⟩, ih.1 h⟩
      | true =>
        obtain ⟨verdict, hv, h⟩ := Outcome.hasAnswer_bind.1 h
        exact ⟨⟨⟨_, hb⟩, fun _ => ⟨verdict, hv⟩⟩, ih.1 h⟩
    · rintro ⟨⟨⟨b, hb⟩, hmember⟩, hrest⟩
      refine ⟨b, hb, ?_⟩
      have hm := (patternOccurs_eq_ok hb).2
      cases b with
      | false => exact ih.2 hrest
      | true =>
        obtain ⟨verdict, hv⟩ := hmember hm
        exact Outcome.hasAnswer_bind.2 ⟨verdict, hv, ih.2 hrest⟩

lemma hasAnswer_mergePatterns {children : Entries} {part : ObjectPart} :
    HasAnswer (mergePatterns validate members place children part).result ↔
      ∀ p ∈ children, ∀ e ∈ members, MatchSettles place p e := by
  induction children generalizing part with
  | nil => simp [mergePatterns]
  | cons p rest ih =>
    rw [List.forall_mem_cons, mergePatterns, Outcome.hasAnswer_bind, ← hasAnswer_mergeMatching]
    constructor
    · rintro ⟨next, hn, h⟩
      exact ⟨⟨next, hn⟩, ih.1 h⟩
    · rintro ⟨⟨next, hn⟩, hrest⟩
      exact ⟨next, hn, ih.2 hrest⟩

/-- Where additional members are refused altogether, none is validated. -/
def AdditionalSettles (keywords members : Entries) (place : Place) : Prop :=
  additionalSchema keywords = .bool false ∨
    ∀ v ∈ additionalVisits keywords members place, v.Settles

lemma settles_of_true {v : Visit} (h : v.schema = .bool true) : v.Settles := by
  have ha : v.Answers := answers_of_bool h
  refine ⟨ha, .inl ?_⟩
  have hv : (validate v.schema v.value v.place).result = .ok (.valid v.value) := by simp [h]
  rw [Visit.verdict_eq hv]
  rfl

/-- Nothing is asked of members that are taken as they are. -/
lemma additionalSettles_of_true (h : additionalSchema keywords = .bool true) :
    AdditionalSettles keywords members place := by
  refine .inr fun v hv => settles_of_true ?_
  obtain ⟨e, -, rfl⟩ := List.mem_map.1 hv
  exact h

lemma hasAnswer_additionalPart {part : ObjectPart} (hs : members.HasClearKeys)
    (hc : part.consumed = (mergedVisits keywords members place).map Visit.key) :
    HasAnswer (additionalPart validate keywords members place part).result ↔
      AdditionalSettles keywords members place := by
  by_cases he : extras keywords members place = []
  · have hv : additionalVisits keywords members place = [] := by simp [additionalVisits, he]
    simp [additionalPart, extraMembers_eq hs hc, he, AdditionalSettles, hv]
  · rw [additionalPart_eq hs hc he, AdditionalSettles]
    split
    · rename_i hb
      exact iff_of_true (hasAnswer_pure _) (additionalSettles_of_true hb)
    · rename_i hb
      exact iff_of_true (hasAnswer_pure _) (.inl hb)
    · rename_i hnt hnf
      rw [hasAnswer_mergeVisits]
      exact ⟨.inr, fun h => h.resolve_left hnf⟩

lemma hasAnswer_nameViolations {schema : Value} {place : Place} :
    HasAnswer (nameViolations validate schema place members).result ↔
      ∀ e ∈ members, HasAnswer (nameVerdict validate schema e.1 place).result := by
  induction members with
  | nil => simp [nameViolations]
  | cons e rest ih =>
    obtain ⟨key, member⟩ := e
    rw [List.forall_mem_cons, nameViolations, Outcome.hasAnswer_bind]
    constructor
    · rintro ⟨verdict, hv, h⟩
      obtain ⟨later, hl, -⟩ := Outcome.hasAnswer_bind.1 h
      exact ⟨⟨verdict, hv⟩, ih.1 ⟨later, hl⟩⟩
    · rintro ⟨⟨verdict, hv⟩, hrest⟩
      obtain ⟨later, hl⟩ := ih.2 hrest
      exact ⟨verdict, hv, Outcome.hasAnswer_bind.2 ⟨later, hl, hasAnswer_pure _⟩⟩

/-- All keys can be put to the schema of names. -/
def NamesSettle (keywords members : Entries) (place : Place) : Prop :=
  ∀ schema, keywords.defined? "propertyNames" = some schema → ∀ e ∈ members,
    HasAnswer (nameVerdict validate schema e.1 (place.keyword "propertyNames")).result

lemma hasAnswer_namesPart {part : ObjectPart} :
    HasAnswer (namesPart validate keywords members place part).result ↔
      NamesSettle keywords members place := by
  unfold namesPart NamesSettle
  cases keywords.defined? "propertyNames" with
  | none => simp
  | some schema =>
    simp only [Option.some.injEq, forall_eq']
    rw [← hasAnswer_nameViolations, Outcome.hasAnswer_bind]
    exact ⟨fun ⟨vs, hv, _⟩ => ⟨vs, hv⟩, fun ⟨vs, hv⟩ => ⟨vs, hv, hasAnswer_pure _⟩⟩

/-! ### All steps -/

/-- Every step of the checks of an object has an answer. -/
structure ObjectSettles (keywords members : Entries) (place : Place) : Prop where
  guard : HasAnswer (guardReasons keywords .object .json (.object members))
  required : HasAnswer (requiredReasons keywords members)
  properties : HasAnswer (keywords.children "properties")
  declared : ∀ v ∈ declaredVisits keywords members place, v.Settles
  patterns : HasAnswer (keywords.children "patternProperties")
  matching : ∀ p ∈ childrenOf keywords "patternProperties", ∀ e ∈ members, MatchSettles place p e
  additional : AdditionalSettles keywords members place
  names : NamesSettle keywords members place
  fewer : HasAnswer (minCountReasons keywords members)
  more : HasAnswer (maxCountReasons keywords members)

lemma objectSettles_of_hasAnswer (hs : members.HasClearKeys)
    (h : HasAnswer (validateObject validate keywords (.object members) place).result) :
    ObjectSettles keywords members place := by
  obtain ⟨guard, hguard, h⟩ := Outcome.hasAnswer_bind.1 h
  obtain ⟨part, hpart, -⟩ := Outcome.hasAnswer_bind.1 h
  obtain ⟨missing, few, many, added, named, run, -⟩ := exists_membersRun hpart
  rw [result_liftM] at hguard
  exact
    { guard := ⟨_, hguard⟩
      required := ⟨_, run.required⟩
      properties := run.properties
      declared := hasAnswer_mergeVisits.1 ⟨_, run.declared⟩
      patterns := run.patterns
      matching := hasAnswer_mergePatterns.1 ⟨_, run.matching⟩
      additional := (hasAnswer_additionalPart hs (mergedPart_consumed _)).1 ⟨_, run.additional⟩
      names := hasAnswer_namesPart.1 ⟨_, run.names⟩
      fewer := ⟨_, run.fewer⟩
      more := ⟨_, run.more⟩ }

lemma ObjectSettles.hasAnswer (h : ObjectSettles keywords members place)
    (hs : members.HasClearKeys) :
    HasAnswer (validateObject validate keywords (.object members) place).result := by
  unfold validateObject membersPart
  refine hasAnswer_bind_of_hasAnswer h.guard fun guard _ => ?_
  refine hasAnswer_bind_of_hasAnswer ?_ fun part _ => hasAnswer_pure _
  refine hasAnswer_bind_of_hasAnswer h.required fun missing _ => ?_
  refine hasAnswer_bind_of_hasAnswer h.properties fun properties hp => ?_
  obtain rfl := childrenOf_eq hp
  rw [mergeProperties_eq]
  refine hasAnswer_bind_of_hasAnswer (hasAnswer_mergeVisits.2 h.declared) fun part hdeclared => ?_
  obtain ⟨-, rfl⟩ := mergeVisits_eq_ok hdeclared
  refine hasAnswer_bind_of_hasAnswer h.patterns fun patterns hq => ?_
  obtain rfl := childrenOf_eq hq
  refine hasAnswer_bind_of_hasAnswer (hasAnswer_mergePatterns.2 h.matching) fun part hmatching => ?_
  obtain ⟨-, rfl⟩ := mergePatterns_eq_ok hmatching
  refine hasAnswer_bind_of_hasAnswer
    ((hasAnswer_additionalPart hs (mergedPart_consumed missing)).2 h.additional) fun part _ => ?_
  refine hasAnswer_bind_of_hasAnswer (hasAnswer_namesPart.2 h.names) fun part _ => ?_
  refine hasAnswer_bind_of_hasAnswer h.fewer fun few _ => ?_
  exact hasAnswer_bind_of_hasAnswer h.more fun many _ => hasAnswer_pure _

/-- **An object has a verdict** if and only if every step has an answer. -/
theorem hasAnswer_validate_object (ht : keywords.named? "type" = some (.string "object"))
    (hs : members.HasClearKeys) :
    HasAnswer (validate (.object keywords) (.object members) place).result ↔
      ObjectSettles keywords members place := by
  rw [validate_object ht rfl]
  exact ⟨objectSettles_of_hasAnswer hs, fun h => h.hasAnswer hs⟩

end Validation

end JsonSchema
