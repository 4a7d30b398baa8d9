import JsonSchema.Proofs.Insertion
import JsonSchema.Proofs.Object.Violations

/-!
Objects that are accepted.

Where an object has no violations and no member is put to a list of types, every visit that is not
passed over accepts its member. So the visits never take back what an earlier one left, and the
members of the result are those of the declarations with those of the other visits on top.
-/

namespace JsonSchema

open Validation

/-! ### What visits leave -/

namespace Visit

/-- The member as the schema completes it; absent if it is refused. -/
def result (visit : Visit) : Value :=
  match visit.verdict with
  | .valid result => result
  | .invalid _ => .undefined

def left? (visit : Visit) : Option Value :=
  if visit.result.isUndefined then none else some visit.result

/-- The entries that visits leave when none overwrites another. -/
def filled (visits : List Visit) : Entries :=
  (visits.filter (!·.result.isUndefined)).map fun v => (v.key, v.result)

lemma verdict_of_isValid {visit : Visit} (h : visit.verdict.isValid = true) :
    visit.verdict = .valid visit.result := by
  unfold result
  cases hv : visit.verdict with
  | valid w => rfl
  | invalid vs => simp [hv, Verdict.isValid] at h

lemma validate_of_isValid {visit : Visit} (ha : visit.Answers)
    (h : visit.verdict.isValid = true) :
    (validate visit.schema visit.value visit.place).result = .ok (.valid visit.result) := by
  obtain ⟨verdict, ha⟩ := ha
  rw [ha, ← verdict_of_isValid h, verdict_eq ha]

lemma verdict_of_result {visit : Visit} (h : visit.result.isUndefined = false) :
    visit.verdict = .valid visit.result := by
  unfold result at h ⊢
  cases hv : visit.verdict with
  | valid w => rfl
  | invalid vs => simp [hv, Value.isUndefined] at h

lemma isSuppressed_of_result {visit : Visit} (h : visit.result.isUndefined = false) :
    visit.isSuppressed = false := by
  simp [isSuppressed, verdict_of_result h, Verdict.isValid]

lemma result_of_isSuppressed {visit : Visit} (h : visit.isSuppressed = true) :
    visit.result.isUndefined = true := by
  rw [← Bool.not_eq_false]
  intro hr
  simp [isSuppressed_of_result hr] at h

/-- A member that is there stays there where it is accepted. -/
lemma isUndefined_result {visit : Visit} (ha : visit.Answers)
    (hv : visit.value.isUndefined = false) (h : visit.verdict.isValid = true) :
    visit.result.isUndefined = false :=
  isUndefined_of_valid hv (validate_of_isValid ha h)

/-- A member that is absent comes in where its schema has a default. -/
lemma isUndefined_result_of_absent {visit : Visit} (ha : visit.Answers)
    (hv : visit.value = .undefined) : visit.result.isUndefined = !visit.schema.hasDefault := by
  cases hd : visit.schema.hasDefault with
  | true =>
    obtain ⟨w, hw, h⟩ := valid_of_hasDefault hd visit.place
    have hverdict : visit.verdict = .valid w := verdict_eq (hv ▸ h)
    simp [result, hverdict, hw]
  | false =>
    rw [Bool.not_false, ← Bool.not_eq_false]
    intro hr
    obtain ⟨verdict, ha⟩ := ha
    rw [← verdict_eq ha, verdict_of_result hr, hv] at ha
    simp [hasDefault_of_valid hr ha] at hd

/-- Away from lists of types, nothing is refused without a violation. -/
lemma isValid_of_violations {visit : Visit} (ha : visit.Answers) (hu : visit.schema.isUnion = false)
    (h : visit.violations = []) : visit.verdict.isValid = true := by
  obtain ⟨verdict, ha⟩ := ha
  rw [violations, verdict_eq ha] at h
  rw [verdict_eq ha]
  cases verdict with
  | valid w => rfl
  | invalid vs =>
    obtain rfl : vs = [] := h
    simp [isUnion_of_invalid_nil ha] at hu

@[simp] lemma filled_nil : filled [] = [] := rfl

lemma filled_cons (v : Visit) (visits : List Visit) :
    filled (v :: visits) =
      if v.result.isUndefined then filled visits else (v.key, v.result) :: filled visits := by
  cases h : v.result.isUndefined <;> simp [filled, h]

lemma filled_append (us vs : List Visit) :
    filled (us ++ vs) = List.append (filled us) (filled vs) := by
  simp [filled]

lemma filled_congr {α : Type} {xs : List α} {f g : α → Visit}
    (h : ∀ x ∈ xs, (f x).key = (g x).key ∧ (f x).result = (g x).result) :
    filled (xs.map f) = filled (xs.map g) := by
  induction xs with
  | nil => rfl
  | cons x rest ih =>
    obtain ⟨hkey, hresult⟩ := h x (List.mem_cons_self ..)
    simp only [List.map_cons, filled_cons, hkey, hresult,
      ih fun y hy => h y (List.mem_cons_of_mem _ hy)]

lemma distinctKeys_filled {visits : List Visit}
    (hd : visits.Pairwise fun u v => Value.same u.key v.key = false) :
    Entries.HasDistinctKeys (filled visits) :=
  List.pairwise_map.2 (hd.filter _)

lemma keys_filled (visits : List Visit) : Entries.keys (filled visits) =
    (visits.filter (!·.result.isUndefined)).map Visit.key := by
  simp [filled, Entries.keys, Function.comp_def]

lemma mem_filled {visits : List Visit} {v : Visit} (hv : v ∈ visits)
    (hr : v.result.isUndefined = false) : (v.key, v.result) ∈ filled visits :=
  List.mem_map_of_mem (List.mem_filter.2 ⟨hv, by simp [hr]⟩)

lemma mem_keys_filled {visits : List Visit} {key : Value} : key ∈ Entries.keys (filled visits) ↔
    ∃ v ∈ visits, v.result.isUndefined = false ∧ v.key = key := by
  simp [keys_filled, and_assoc]

lemma contains_filled (visits : List Visit) (key : Value) : Entries.contains (filled visits) key =
    visits.any fun v => !v.result.isUndefined && Value.same v.key key := by
  simp [filled, Entries.contains, Function.comp_def, List.any_filter]

lemma stringKeys_filled {visits : List Visit} (hs : ∀ v ∈ visits, v.key.isString = true) :
    Entries.HasStringKeys (filled visits) := by
  intro e he
  obtain ⟨v, hv, rfl⟩ := List.mem_map.1 he
  exact hs v (List.mem_filter.1 hv).1

lemma filled_unsuppressed (visits : List Visit) :
    filled (visits.filter (!·.isSuppressed)) = filled visits := by
  unfold filled
  rw [List.filter_filter]
  congr 1
  refine List.filter_congr fun v _ => ?_
  cases hs : v.isSuppressed with
  | false => simp
  | true => simp [result_of_isSuppressed hs]

end Visit

open Visit

namespace Validation.ObjectPart

lemma merge_members (part : ObjectPart) (v : Visit) :
    (part.merge v.key v.verdict).members =
      if v.result.isUndefined then part.members.erase v.key
      else part.members.insert v.key v.result := by
  unfold merge Visit.result
  cases v.verdict <;> rfl

/-- Visits leave the keys of an object different. -/
lemma distinctKeys_mergeAll {part : ObjectPart} (h : part.members.HasDistinctKeys)
    (visits : List Visit) : (part.mergeAll visits).members.HasDistinctKeys := by
  induction visits generalizing part with
  | nil => exact h
  | cons v rest ih =>
    refine ih ?_
    rw [merge_members]
    split
    · exact h.erase v.key
    · exact h.insert v.key v.result

section

variable {P : Value → Prop} {part : ObjectPart} (h : ∀ e ∈ part.members, P e.1)

include h

lemma forall_keys_merge {v : Visit} (hv : P v.key) :
    ∀ e ∈ (part.merge v.key v.verdict).members, P e.1 := by
  rw [merge_members]
  split
  · exact Entries.forall_keys_erase h v.key
  · exact Entries.forall_keys_insert h hv v.result

/-- What holds of the keys of an object and of all visits holds of the keys after the visits. -/
lemma forall_keys_mergeAll {visits : List Visit} (hs : ∀ v ∈ visits, P v.key) :
    ∀ e ∈ (part.mergeAll visits).members, P e.1 := by
  induction visits generalizing part with
  | nil => exact h
  | cons v rest ih =>
    exact ih (forall_keys_merge h (hs v (List.mem_cons_self ..)))
      fun u hu => hs u (List.mem_cons_of_mem _ hu)

end

lemma stringKeys_mergeAll {part : ObjectPart} (h : part.members.HasStringKeys)
    {visits : List Visit} (hs : ∀ v ∈ visits, v.key.isString = true) :
    (part.mergeAll visits).members.HasStringKeys :=
  forall_keys_mergeAll (P := (·.isString = true)) h hs

/-- The last visit of a key decides what is under it. -/
lemma get?_mergeAll {part : ObjectPart} {visits : List Visit}
    (hs : ∀ v ∈ visits, v.key.isString = true) (key : Value) :
    (part.mergeAll visits).members.get? key =
      match (visits.filter fun v => Value.same v.key key).getLast? with
      | some v => v.left?
      | none => part.members.get? key := by
  induction visits generalizing part with
  | nil => rfl
  | cons v rest ih =>
    have hv := hs v (List.mem_cons_self ..)
    have hmerge : (part.merge v.key v.verdict).members.get? key =
        if Value.same v.key key then v.left? else part.members.get? key := by
      rw [merge_members, left?]
      cases v.result.isUndefined with
      | true => rw [if_pos rfl, Entries.get?_erase hv]; rfl
      | false => rw [if_neg (by simp), Entries.get?_insert hv]; rfl
    rw [mergeAll_cons, ih fun u hu => hs u (List.mem_cons_of_mem _ hu), hmerge, List.filter_cons]
    by_cases hk : Value.same v.key key = true
    · rw [if_pos hk, if_pos hk, List.getLast?_cons]
      cases (rest.filter fun v => Value.same v.key key).getLast? <;> rfl
    · rw [if_neg hk, if_neg hk]

lemma mergeAll_members_of_results {visits : List Visit}
    (h : ∀ v ∈ visits, v.result.isUndefined = false) (part : ObjectPart) :
    (part.mergeAll visits).members = part.members.update (filled visits) := by
  induction visits generalizing part with
  | nil => rfl
  | cons v rest ih =>
    rw [mergeAll_cons, ih fun u hu => h u (List.mem_cons_of_mem _ hu), merge_members, filled_cons]
    simp [h v (List.mem_cons_self ..)]

/-- Visits of different keys that are all new: nothing is overwritten. -/
lemma mergeAll_members_of_distinct {visits : List Visit} {part : ObjectPart}
    (hd : visits.Pairwise fun u v => Value.same u.key v.key = false)
    (hn : ∀ v ∈ visits, part.members.contains v.key = false) :
    (part.mergeAll visits).members = List.append part.members (filled visits) := by
  induction visits generalizing part with
  | nil => simp [filled]
  | cons v rest ih =>
    obtain ⟨hv, hrest⟩ := List.pairwise_cons.1 hd
    have hnew := hn v (List.mem_cons_self ..)
    have hmerge : (part.merge v.key v.verdict).members =
        List.append part.members (filled [v]) := by
      rw [merge_members, Entries.erase_of_not_contains hnew,
        Entries.insert_of_not_contains hnew, filled_cons]
      split <;> simp
    rw [mergeAll_cons, ih hrest, hmerge]
    · rw [show v :: rest = [v] ++ rest from rfl, filled_append]
      simp
    · intro u hu
      have hnu := hn u (List.mem_cons_of_mem _ hu)
      have hvu := hv u hu
      simp only [Entries.contains] at hnu ⊢
      rw [hmerge, filled_cons]
      split <;> simp [hnu, hvu]

end Validation.ObjectPart

namespace Validation

/-- No member is put to a node with a list of types. -/
def NoUnionBelow (keywords : Entries) : Prop :=
  (∀ e ∈ childrenOf keywords "properties", Value.isUnion e.2 = false) ∧
    (∀ e ∈ childrenOf keywords "patternProperties", Value.isUnion e.2 = false) ∧
    (additionalSchema keywords).isUnion = false

/-- An object that is accepted: all visits have an answer, and there are no violations. -/
structure Accepted (keywords members : Entries) (place : Place) : Prop where
  stringKeys : members.HasStringKeys
  distinctKeys : members.HasDistinctKeys
  distinctNames : (childrenOf keywords "properties").HasDistinctKeys
  noUnion : NoUnionBelow keywords
  answers : ∀ v ∈ objectVisits keywords members place, v.Answers
  noViolations : objectViolations keywords members place = []

section

variable {keywords members : Entries} {place : Place}

/-! ### Extra keys -/

lemma isExtra_iff (hs : members.HasStringKeys) {e : Value × Value} (he : e ∈ members) :
    isExtra keywords members place e.1 = true ↔
      (∀ v ∈ patternVisits keywords members place, Value.same v.key e.1 = false) ∧
        ∀ v ∈ declaredVisits keywords members place, Value.same v.key e.1 = true →
          v.isSuppressed = true := by
  have hp := @any_patternVisits keywords members place e he (hs e he)
  rw [isExtra, ← hp, Bool.and_eq_true, Bool.not_eq_true', List.any_eq_false, List.all_eq_true]
  refine and_congr (by simp) (forall₂_congr fun v _ => ?_)
  cases Value.same v.key e.1 <;> simp

lemma visit_of_not_isExtra (hs : members.HasStringKeys) {e : Value × Value} (he : e ∈ members)
    (hx : isExtra keywords members place e.1 = false) :
    (∃ v ∈ patternVisits keywords members place, v.key = e.1) ∨
      ∃ v ∈ declaredVisits keywords members place, v.key = e.1 ∧ v.isSuppressed = false := by
  have hp := @any_patternVisits keywords members place e he (hs e he)
  rw [isExtra, ← hp, Bool.and_eq_false_iff, Bool.not_eq_false', List.any_eq_true,
    List.all_eq_false] at hx
  simpa [Value.same_of_isString (hs e he)] using hx

/-! ### Visits of an accepted object -/

lemma isValid_of_unsuppressed {v : Visit} (ha : v.Answers) (hu : v.schema.isUnion = false)
    (hn : (if v.value.falsy then [] else v.violations) = []) (hs : v.isSuppressed = false) :
    v.verdict.isValid = true := by
  cases hf : v.value.falsy with
  | true => simpa [Visit.isSuppressed, hf] using hs
  | false => exact isValid_of_violations ha hu (by simpa [hf] using hn)

namespace Accepted

variable (h : Accepted keywords members place)

include h

lemma distinct_declared : (declaredVisits keywords members place).Pairwise
    fun u v => Value.same u.key v.key = false := by
  refine List.pairwise_map.2 ?_
  exact h.distinctNames

lemma distinct_additional : (additionalVisits keywords members place).Pairwise
    fun u v => Value.same u.key v.key = false := by
  refine List.pairwise_map.2 (List.Pairwise.filter _ ?_)
  exact h.distinctKeys

lemma isValid_of_declared {v : Visit} (hv : v ∈ declaredVisits keywords members place)
    (hs : v.isSuppressed = false) : v.verdict.isValid = true := by
  have ha : v.Answers := h.answers v (by simp [objectVisits, hv])
  have hn := (violations_of_objectViolations_nil h.noViolations).1 v hv
  obtain ⟨e, he, rfl⟩ := List.mem_map.1 hv
  exact isValid_of_unsuppressed ha (h.noUnion.1 e he) hn hs

lemma isValid_of_pattern {v : Visit} (hv : v ∈ patternVisits keywords members place) :
    v.verdict.isValid = true := by
  have ha : v.Answers := h.answers v (by simp [objectVisits, hv])
  have hn := (violations_of_objectViolations_nil h.noViolations).2.1 v hv
  obtain ⟨p, hp, e, -, -, rfl⟩ := mem_patternVisits.1 hv
  exact isValid_of_violations ha (h.noUnion.2.1 p hp) hn

lemma isValid_of_additional {v : Visit} (hv : v ∈ additionalVisits keywords members place)
    (hs : v.isSuppressed = false) : v.verdict.isValid = true := by
  have ha : v.Answers := h.answers v (by simp [objectVisits, hv])
  have hn := (violations_of_objectViolations_nil h.noViolations).2.2
  obtain ⟨e, he, rfl⟩ := List.mem_map.1 hv
  unfold additionalViolations at hn
  split at hn
  · rename_i hb
    rw [hb, verdict_additionalVisit_true]
    rfl
  · split at hn
    · rename_i hnil
      simp [hnil] at he
    · cases hn
  · exact isValid_of_unsuppressed ha h.noUnion.2.2 (List.flatMap_eq_nil_iff.1 hn _ hv) hs

lemma isUndefined_of_pattern (hd : ∀ e ∈ members, e.2.isUndefined = false) {v : Visit}
    (hv : v ∈ patternVisits keywords members place) : v.result.isUndefined = false := by
  refine isUndefined_result (h.answers _ (by simp [objectVisits, hv])) ?_ (h.isValid_of_pattern hv)
  obtain ⟨p, -, e, he, -, rfl⟩ := mem_patternVisits.1 hv
  exact hd e he

lemma isUndefined_of_additional {v : Visit} (hv : v ∈ additionalVisits keywords members place) :
    v.result.isUndefined = v.isSuppressed := by
  cases hs : v.isSuppressed with
  | true => exact result_of_isSuppressed hs
  | false =>
    refine isUndefined_result (h.answers _ (by simp [objectVisits, hv])) ?_
      (h.isValid_of_additional hv hs)
    obtain ⟨e, he, rfl⟩ := List.mem_map.1 hv
    exact isUndefined_of_mem_extras he

/-- The declared members come first; the others are put on top of them. -/
lemma completedMembers_eq
    (hp : ∀ v ∈ patternVisits keywords members place, v.result.isUndefined = false) :
    completedMembers keywords members place =
      (filled (declaredVisits keywords members place)).update (filled
        (patternVisits keywords members place ++ additionalVisits keywords members place)) := by
  have hresults : ∀ v ∈ patternVisits keywords members place ++
      (additionalVisits keywords members place).filter (!·.isSuppressed),
      v.result.isUndefined = false := by
    intro v hv
    rcases List.mem_append.1 hv with hv | hv
    · exact hp v hv
    · obtain ⟨hv, hs⟩ := List.mem_filter.1 hv
      rw [h.isUndefined_of_additional hv]
      simpa using hs
  rw [completedMembers, mergedVisits, List.append_assoc, ObjectPart.mergeAll_append,
    ObjectPart.mergeAll_members_of_results hresults,
    ObjectPart.mergeAll_members_of_distinct (h.distinct_declared.filter _) fun v _ => rfl,
    filled_unsuppressed, filled_append, filled_append, filled_unsuppressed]
  rfl

end Accepted

end

lemma accepted_of_valid {keywords members : Entries} {place : Place} {result : Value}
    (ht : keywords.named? "type" = some (.string "object"))
    (hp : (childrenOf keywords "properties").HasDistinctKeys) (hu : NoUnionBelow keywords)
    (hs : members.HasStringKeys) (hk : members.HasDistinctKeys)
    (h : (validate (.object keywords) (.object members) place).result = .ok (.valid result)) :
    Accepted keywords members place ∧
      result = .object (completedMembers keywords members place) := by
  obtain ⟨ha, hverdict⟩ := validate_object_eq_ok ht hs h
  obtain ⟨hn, rfl⟩ := verdictOf_eq_valid.1 hverdict.symm
  exact ⟨⟨hs, hk, hp, hu, ha, hn⟩, rfl⟩

end Validation

end JsonSchema
