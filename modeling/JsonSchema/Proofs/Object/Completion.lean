import JsonSchema.Proofs.Object.Accepted

/-!
What an object without violations is completed to.

Main statement: no member gets lost but falsy additional ones that are refused, no member comes
in but defaults, and each member is the result of the last schema that it was put to. The keys
stand in the order in which the steps come to them.
-/

namespace JsonSchema.Validation

open Visit

section

variable {keywords members : Entries} {place : Place}

/-! ### Keys -/

/-- An additional member that is refused but falsy: it is left out in silence. -/
def isDropped (keywords members : Entries) (place : Place) (key : Value) : Bool :=
  isExtra keywords members place key
    && (additionalVisit place (additionalSchema keywords) (key, members.get key)).isSuppressed

/-- A declared name without a member, whose schema has a default. -/
def HasDefault (keywords members : Entries) (key : Value) : Prop :=
  members.contains key = false ∧
    ∃ child : Value, (key, child) ∈ childrenOf keywords "properties" ∧ child.hasDefault = true

namespace Accepted

variable (h : Accepted keywords members place)

include h

lemma stringKeys_pattern : ∀ v ∈ patternVisits keywords members place, v.key.isString = true := by
  intro v hv
  obtain ⟨p, -, e, he, -, rfl⟩ := mem_patternVisits.1 hv
  exact h.stringKeys e he

lemma stringKeys_additional :
    ∀ v ∈ additionalVisits keywords members place, v.key.isString = true := by
  intro v hv
  obtain ⟨e, he, rfl⟩ := List.mem_map.1 hv
  exact h.stringKeys e (mem_extras.1 he).1

/-- The keys of the visits behind those of the declarations are strings. -/
lemma stringKeys_others : Entries.HasStringKeys (filled (patternVisits keywords members place
    ++ additionalVisits keywords members place)) :=
  stringKeys_filled fun v hv =>
    (List.mem_append.1 hv).elim (h.stringKeys_pattern v) (h.stringKeys_additional v)

lemma mem_firstKeys_pattern {key : Value} :
    key ∈ Entries.firstKeys ((patternVisits keywords members place).map Visit.key) ↔
      ∃ v ∈ patternVisits keywords members place, v.key = key := by
  rw [Entries.mem_firstKeys (List.forall_mem_map.2 h.stringKeys_pattern), List.mem_map]

lemma isDropped_eq {e : Value × Value} (he : e ∈ extras keywords members place) :
    isDropped keywords members place e.1 =
      (additionalVisit place (additionalSchema keywords) e).isSuppressed := by
  obtain ⟨hm, -, hx⟩ := mem_extras.1 he
  rw [isDropped, hx, Entries.get_of_mem h.distinctKeys hm, Bool.true_and]

lemma keys_filled_additional : Entries.keys (filled (additionalVisits keywords members place)) =
    (Entries.keys (extras keywords members place)).filter
      (!isDropped keywords members place ·) := by
  rw [keys_filled, additionalVisits, List.filter_map, List.map_map, Entries.keys, List.filter_map]
  refine congrArg (List.map fun e : Value × Value => e.1) (List.filter_congr fun e he => ?_)
  simp only [Function.comp_apply]
  rw [h.isUndefined_of_additional (List.mem_map_of_mem he), h.isDropped_eq he]

lemma keys_filled_pattern (hd : ∀ e ∈ members, e.2.isUndefined = false) :
    Entries.keys (filled (patternVisits keywords members place)) =
      (patternVisits keywords members place).map Visit.key := by
  rw [keys_filled, List.filter_eq_self.2 fun v hv => by simp [h.isUndefined_of_pattern hd hv]]

/-- A key that is still additional is under no entry of the other steps. -/
lemma not_contains_of_extra {e : Value × Value} (he : e ∈ extras keywords members place) :
    Entries.contains (filled (declaredVisits keywords members place)) e.1 = false := by
  obtain ⟨hm, -, hx⟩ := mem_extras.1 he
  rw [contains_filled, List.any_eq_false]
  intro v hv
  rw [Bool.and_eq_true, not_and]
  intro hr hk
  simp [result_of_isSuppressed (((isExtra_iff h.stringKeys hm).1 hx).2 v hv hk)] at hr

/-- The keys, in the order in which the steps come to them. -/
lemma keys_completedMembers (hd : ∀ e ∈ members, e.2.isUndefined = false) :
    (completedMembers keywords members place).keys =
      Entries.keys (filled (declaredVisits keywords members place))
        ++ (Entries.firstKeys ((patternVisits keywords members place).map Visit.key)).filter
          (!Entries.contains (filled (declaredVisits keywords members place)) ·)
        ++ (Entries.keys (extras keywords members place)).filter
          (!isDropped keywords members place ·) := by
  have hothers : Entries.keys (filled (patternVisits keywords members place
      ++ additionalVisits keywords members place)) =
      (patternVisits keywords members place).map Visit.key
        ++ (Entries.keys (extras keywords members place)).filter
          (!isDropped keywords members place ·) := by
    rw [← h.keys_filled_pattern hd, ← h.keys_filled_additional, filled_append]
    simp [Entries.keys]
  have hdistinct : ((Entries.keys (extras keywords members place)).filter
      (!isDropped keywords members place ·)).Pairwise fun k l => Value.same k l = false := by
    refine List.Pairwise.filter _ (Entries.hasDistinctKeys_iff.1 ?_)
    exact List.Pairwise.filter _ h.distinctKeys
  rw [h.completedMembers_eq fun _ => h.isUndefined_of_pattern hd,
    Entries.keys_update h.stringKeys_others, hothers, Entries.firstKeys_append,
    Entries.firstKeys_of_pairwise hdistinct, List.filter_append, List.append_assoc,
    List.filter_filter]
  congr 2
  refine List.filter_eq_self.2 fun key hkey => ?_
  obtain ⟨e, he, rfl⟩ := List.mem_map.1 (List.mem_filter.1 hkey).1
  obtain ⟨hm, -, hx⟩ := mem_extras.1 he
  have hp := ((isExtra_iff h.stringKeys hm).1 hx).1
  simpa [h.not_contains_of_extra he] using hp

/-- What a declaration or a pattern accepts is not dropped. -/
lemma isDropped_eq_false {v : Visit} (hm : v.key ∈ members.keys)
    (hv : v ∈ declaredVisits keywords members place ∧ v.isSuppressed = false ∨
      v ∈ patternVisits keywords members place) :
    isDropped keywords members place v.key = false := by
  obtain ⟨e, he, hk⟩ := List.mem_map.1 hm
  have hsame : Value.same v.key e.1 = true := hk ▸ Value.same_self v.key
  have hx : isExtra keywords members place v.key = false := by
    rw [← hk, ← Bool.not_eq_true]
    intro hx
    obtain ⟨hp, hd⟩ := (isExtra_iff h.stringKeys he).1 hx
    rcases hv with ⟨hv, hs⟩ | hv
    · simp [hd v hv hsame] at hs
    · simp [hp v hv] at hsame
  rw [isDropped, hx, Bool.false_and]

/-- A declared member that is completed to something is there, or has a default. -/
lemma of_mem_filled_declared {v : Visit} (hv : v ∈ declaredVisits keywords members place)
    (hr : v.result.isUndefined = false) :
    (v.key ∈ members.keys ∧ isDropped keywords members place v.key = false) ∨
      HasDefault keywords members v.key := by
  cases hc : members.contains v.key with
  | true =>
    have hm := Entries.mem_keys_of_contains h.stringKeys hc
    exact .inl ⟨hm, h.isDropped_eq_false hm (.inl ⟨hv, isSuppressed_of_result hr⟩)⟩
  | false =>
    have ha : v.Answers := h.answers _ (by simp [objectVisits, hv])
    obtain ⟨e, he, rfl⟩ := List.mem_map.1 hv
    rw [isUndefined_result_of_absent ha (Entries.get_of_not_contains hc)] at hr
    exact .inr ⟨hc, e.2, he, by simpa [declaredVisit] using hr⟩

/-- A member that is there, and whose declaration does not pass it over, has a result. -/
lemma isUndefined_result_of_declared (hd : ∀ e ∈ members, e.2.isUndefined = false)
    {e : Value × Value} (he : e ∈ members) {v : Visit}
    (hv : v ∈ declaredVisits keywords members place) (hk : v.key = e.1)
    (hs : v.isSuppressed = false) : v.result.isUndefined = false := by
  have hget : v.value = e.2 := by
    obtain ⟨f, -, rfl⟩ := List.mem_map.1 hv
    exact (congrArg members.get hk).trans (Entries.get_of_mem h.distinctKeys he)
  exact isUndefined_result (h.answers v (by simp [objectVisits, hv])) (hget ▸ hd e he)
    (h.isValid_of_declared hv hs)

/-- Every member is under its declaration, a pattern, or an additional key. -/
lemma mem_steps_of_member (hd : ∀ e ∈ members, e.2.isUndefined = false) {e : Value × Value}
    (he : e ∈ members) :
    ((∃ v ∈ declaredVisits keywords members place, v.result.isUndefined = false ∧ v.key = e.1) ∨
      (∃ v ∈ patternVisits keywords members place, v.key = e.1) ∧
        Entries.contains (filled (declaredVisits keywords members place)) e.1 = false) ∨
      e.1 ∈ Entries.keys (extras keywords members place) := by
  by_cases hx : isExtra keywords members place e.1 = true
  · exact .inr (List.mem_map_of_mem (mem_extras.2 ⟨he, hd e he, hx⟩))
  rcases visit_of_not_isExtra h.stringKeys he (by simpa using hx) with
    ⟨v, hv, hk⟩ | ⟨v, hv, hk, hs⟩
  · -- under a pattern, unless an entry of a declaration is there already
    by_cases hc : Entries.contains (filled (declaredVisits keywords members place)) e.1 = true
    · rw [Entries.contains_iff_of_isString (h.stringKeys e he), mem_keys_filled] at hc
      exact .inl (.inl hc)
    · exact .inl (.inr ⟨⟨v, hv, hk⟩, by simpa using hc⟩)
  · exact .inl (.inl ⟨v, hv, h.isUndefined_result_of_declared hd he hv hk hs, hk⟩)

/-- No key gets lost but dropped ones, and none comes in but those of defaults. -/
lemma mem_keys_completedMembers (hd : ∀ e ∈ members, e.2.isUndefined = false) {key : Value} :
    key ∈ (completedMembers keywords members place).keys ↔
      (key ∈ members.keys ∧ isDropped keywords members place key = false) ∨
        HasDefault keywords members key := by
  rw [h.keys_completedMembers hd, List.mem_append, List.mem_append, mem_keys_filled,
    List.mem_filter, List.mem_filter, h.mem_firstKeys_pattern]
  constructor
  · rintro ((⟨v, hv, hr, rfl⟩ | ⟨hp, -⟩) | ⟨hx, hdrop⟩)
    · exact h.of_mem_filled_declared hv hr
    · obtain ⟨v, hv, rfl⟩ := hp
      obtain ⟨p, -, e, he, -, hev⟩ := mem_patternVisits.1 hv
      have hm : v.key ∈ members.keys := List.mem_map.2 ⟨e, he, hev ▸ rfl⟩
      exact .inl ⟨hm, h.isDropped_eq_false hm (.inr hv)⟩
    · obtain ⟨e, he, rfl⟩ := List.mem_map.1 hx
      exact .inl ⟨List.mem_map_of_mem (mem_extras.1 he).1, by simpa using hdrop⟩
  · rintro (⟨hm, hdrop⟩ | ⟨hc, child, he, hw⟩)
    · obtain ⟨e, he, rfl⟩ := List.mem_map.1 hm
      rcases h.mem_steps_of_member hd he with (hfilled | ⟨hpattern, hc⟩) | hx
      · exact .inl (.inl hfilled)
      · exact .inl (.inr ⟨hpattern, by simp [hc]⟩)
      · exact .inr ⟨hx, by simp [hdrop]⟩
    · have hv : declaredVisit members place (key, child) ∈ declaredVisits keywords members place :=
        List.mem_map_of_mem he
      refine .inl (.inl ⟨_, hv, ?_, rfl⟩)
      rw [isUndefined_result_of_absent (h.answers _ (by simp [objectVisits, hv]))
        (Entries.get_of_not_contains hc)]
      simpa [declaredVisit] using hw

end Accepted

/-! ### Results -/

/-- The visit whose result a member becomes: the last one of a pattern, else the one of its
declaration, else the one as an additional member. Visits that are passed over do not count. -/
def decidingVisit (keywords members : Entries) (place : Place) (key : Value) : Visit :=
  (((patternVisits keywords members place).filter fun v => Value.same v.key key).getLast?.or
    ((declaredVisits keywords members place).find? fun v =>
      Value.same v.key key && !v.isSuppressed)).getD
    (additionalVisit place (additionalSchema keywords) (key, members.get key))

namespace Accepted

variable (h : Accepted keywords members place)

include h

lemma find?_declaredVisits {v : Visit} (hv : v ∈ declaredVisits keywords members place)
    (hs : v.isSuppressed = false) :
    ((declaredVisits keywords members place).find? fun u =>
      Value.same u.key v.key && !u.isSuppressed) = some v := by
  have hdistinct := h.distinct_declared
  obtain ⟨us, vs, hsplit⟩ := List.append_of_mem hv
  rw [hsplit, List.pairwise_append] at hdistinct
  rw [hsplit, List.find?_append, List.find?_eq_none.2]
  · simp [Value.same_self, hs]
  · intro u hu
    simp [hdistinct.2.2 u hu v (List.mem_cons_self ..)]

lemma decidingVisit_of_extra {e : Value × Value} (he : e ∈ extras keywords members place) :
    decidingVisit keywords members place e.1 =
      additionalVisit place (additionalSchema keywords) e := by
  obtain ⟨hm, -, hx⟩ := mem_extras.1 he
  obtain ⟨hp, hd⟩ := (isExtra_iff h.stringKeys hm).1 hx
  have hpatterns : ((patternVisits keywords members place).filter fun v =>
      Value.same v.key e.1) = [] := List.filter_eq_nil_iff.2 fun v hv => by simp [hp v hv]
  have hdeclared : ((declaredVisits keywords members place).find? fun v =>
      Value.same v.key e.1 && !v.isSuppressed) = none := by
    refine List.find?_eq_none.2 fun v hv => ?_
    by_cases hk : Value.same v.key e.1 = true
    · simp [hd v hv hk]
    · simp [hk]
  rw [decidingVisit, hpatterns, hdeclared, Entries.get_of_mem h.distinctKeys hm]
  rfl

lemma get?_completedMembers (hd : ∀ e ∈ members, e.2.isUndefined = false) (key : Value) :
    (completedMembers keywords members place).get? key =
      ((Entries.last? (filled (additionalVisits keywords members place)) key).or
        (((patternVisits keywords members place).filter fun v =>
          Value.same v.key key).getLast?.map Visit.result)).or
        (Entries.get? (filled (declaredVisits keywords members place)) key) := by
  have hpatterns : Entries.last? (filled (patternVisits keywords members place)) key =
      ((patternVisits keywords members place).filter fun v =>
        Value.same v.key key).getLast?.map Visit.result := by
    rw [filled, List.filter_eq_self.2 fun v hv => by simp [h.isUndefined_of_pattern hd hv],
      Entries.last?, List.filter_map, List.getLast?_map, Option.map_map]
    rfl
  rw [h.completedMembers_eq fun _ => h.isUndefined_of_pattern hd,
    Entries.get?_update h.stringKeys_others, filled_append, Entries.last?_append, hpatterns]

lemma value_of_mem_objectVisits {v : Visit} (hv : v ∈ objectVisits keywords members place) :
    v.value = members.get v.key := by
  simp only [objectVisits, List.mem_append] at hv
  rcases hv with (hv | hv) | hv
  · obtain ⟨e, -, rfl⟩ := List.mem_map.1 hv
    rfl
  · obtain ⟨p, -, e, he, -, rfl⟩ := mem_patternVisits.1 hv
    exact (Entries.get_of_mem h.distinctKeys he).symm
  · obtain ⟨e, he, rfl⟩ := List.mem_map.1 hv
    exact (Entries.get_of_mem h.distinctKeys (mem_extras.1 he).1).symm

/-- Where an additional member is kept, no other visit counts. -/
lemma decided_by_additional (hd : ∀ e ∈ members, e.2.isUndefined = false) {v : Visit}
    (hv : v ∈ additionalVisits keywords members place) (hr : v.result.isUndefined = false) :
    decidingVisit keywords members place v.key = v ∧
      (completedMembers keywords members place).get? v.key = some v.result := by
  have hlast : Entries.last? (filled (additionalVisits keywords members place)) v.key =
      some v.result :=
    Entries.last?_of_mem (distinctKeys_filled h.distinct_additional)
      (h.stringKeys_additional v hv) (mem_filled hv hr)
  constructor
  · obtain ⟨e, he, rfl⟩ := List.mem_map.1 hv
    exact h.decidingVisit_of_extra he
  · rw [h.get?_completedMembers hd, hlast]
    rfl

lemma last?_filled_additional {key : Value}
    (ha : key ∉ Entries.keys (filled (additionalVisits keywords members place))) :
    Entries.last? (filled (additionalVisits keywords members place)) key = none := by
  refine Entries.last?_of_not_contains ?_
  rw [← Bool.not_eq_true]
  exact fun hc => ha (Entries.mem_keys_of_contains (stringKeys_filled h.stringKeys_additional) hc)

/-- Otherwise, the last visit of a pattern counts. -/
lemma decided_by_pattern (hd : ∀ e ∈ members, e.2.isUndefined = false) {key : Value}
    (ha : key ∉ Entries.keys (filled (additionalVisits keywords members place))) {v : Visit}
    (hp : ((patternVisits keywords members place).filter fun v =>
      Value.same v.key key).getLast? = some v) :
    decidingVisit keywords members place key = v ∧
      (completedMembers keywords members place).get? key = some v.result := by
  rw [h.get?_completedMembers hd, h.last?_filled_additional ha, decidingVisit, hp]
  exact ⟨rfl, rfl⟩

/-- Without a pattern, the visit of the declaration counts. -/
lemma decided_by_declared (hd : ∀ e ∈ members, e.2.isUndefined = false) {v : Visit}
    (ha : v.key ∉ Entries.keys (filled (additionalVisits keywords members place)))
    (hp : ((patternVisits keywords members place).filter fun u =>
      Value.same u.key v.key).getLast? = none)
    (hv : v ∈ declaredVisits keywords members place) (hr : v.result.isUndefined = false) :
    decidingVisit keywords members place v.key = v ∧
      (completedMembers keywords members place).get? v.key = some v.result := by
  have hs := isSuppressed_of_result hr
  rw [h.get?_completedMembers hd, h.last?_filled_additional ha, decidingVisit, hp,
    h.find?_declaredVisits hv hs,
    Entries.get?_of_mem (distinctKeys_filled h.distinct_declared) (mem_filled hv hr)]
  exact ⟨rfl, rfl⟩

/-- Each member is what its deciding visit makes of the member that was there. -/
lemma verdict_decidingVisit (hd : ∀ e ∈ members, e.2.isUndefined = false) {key : Value}
    (hkey : key ∈ (completedMembers keywords members place).keys) :
    (decidingVisit keywords members place key).key = key ∧
      (decidingVisit keywords members place key).value = members.get key ∧
      (decidingVisit keywords members place key).verdict =
        .valid ((completedMembers keywords members place).get key) := by
  suffices hv : ∃ v ∈ objectVisits keywords members place, v.key = key ∧
      v.verdict = .valid v.result ∧ decidingVisit keywords members place key = v ∧
        (completedMembers keywords members place).get? key = some v.result by
    obtain ⟨v, hv, rfl, hverdict, hdeciding, hget⟩ := hv
    have hresult : (completedMembers keywords members place).get v.key = v.result := by
      rw [Entries.get, hget]
      rfl
    rw [hdeciding, hresult]
    exact ⟨rfl, h.value_of_mem_objectVisits hv, hverdict⟩
  by_cases ha : key ∈ Entries.keys (filled (additionalVisits keywords members place))
  · obtain ⟨v, hv, hr, rfl⟩ := mem_keys_filled.1 ha
    exact ⟨v, by simp [objectVisits, hv], rfl, verdict_of_result hr,
      h.decided_by_additional hd hv hr⟩
  cases hp : ((patternVisits keywords members place).filter fun v =>
      Value.same v.key key).getLast? with
  | some v =>
    obtain ⟨hv, hk⟩ := List.mem_filter.1 (List.mem_of_getLast? hp)
    have hkey : v.key = key := by
      obtain ⟨s, hs⟩ := Value.isString_iff.1 (h.stringKeys_pattern v hv)
      rw [hs, Value.string_same] at hk
      rw [hs, hk]
    exact ⟨v, by simp [objectVisits, hv], hkey, verdict_of_isValid (h.isValid_of_pattern hv),
      h.decided_by_pattern hd ha hp⟩
  | none =>
    rw [h.keys_completedMembers hd, List.mem_append, List.mem_append,
      ← h.keys_filled_additional, or_iff_left ha] at hkey
    rcases hkey with hkey | hkey
    · obtain ⟨v, hv, hr, rfl⟩ := mem_keys_filled.1 hkey
      exact ⟨v, by simp [objectVisits, hv], rfl, verdict_of_result hr,
        h.decided_by_declared hd ha hp hv hr⟩
    · obtain ⟨hkey, -⟩ := List.mem_filter.1 hkey
      obtain ⟨v, hv, rfl⟩ := h.mem_firstKeys_pattern.1 hkey
      rw [List.getLast?_eq_none_iff, List.filter_eq_nil_iff] at hp
      exact absurd (Value.same_self v.key) (hp v hv)

lemma distinctKeys_completedMembers (hd : ∀ e ∈ members, e.2.isUndefined = false) :
    (completedMembers keywords members place).HasDistinctKeys := by
  rw [h.completedMembers_eq fun _ => h.isUndefined_of_pattern hd]
  exact (distinctKeys_filled h.distinct_declared).update _

lemma get_of_extra (hd : ∀ e ∈ members, e.2.isUndefined = false) {key : Value}
    (hm : key ∈ members.keys) (hx : isExtra keywords members place key = true)
    (hb : additionalSchema keywords = .bool true) :
    (completedMembers keywords members place).get key = members.get key := by
  obtain ⟨e, he, rfl⟩ := List.mem_map.1 hm
  let v := additionalVisit place (additionalSchema keywords) e
  have hv : v ∈ additionalVisits keywords members place :=
    List.mem_map_of_mem (mem_extras.2 ⟨he, hd e he, hx⟩)
  have hverdict : v.verdict = .valid e.2 := by
    rw [show v = additionalVisit place (.bool true) e from hb ▸ rfl]
    exact verdict_additionalVisit_true place e
  have hresult : v.result = e.2 := by rw [Visit.result, hverdict]
  have hget := (h.decided_by_additional hd hv (hresult ▸ hd e he)).2
  rw [Entries.get_of_mem h.distinctKeys he, Entries.get, show e.1 = v.key from rfl, hget, hresult]
  rfl

end Accepted

end

/-! ### The result on an object -/

/-- **The result on an object.** No key gets lost but those of additional members that are refused
but falsy, and none comes in but those of defaults. Each member is what its deciding visit makes of
the member that was there; an additional one that nothing is said about stays as it is. The keys
are those of the declarations, then those of the patterns, then additional ones. -/
theorem completion_of_object {keywords members : Entries} {place : Place} {result : Value}
    (ht : keywords.named? "type" = some (.string "object"))
    (hp : (childrenOf keywords "properties").HasDistinctKeys) (hu : NoUnionBelow keywords)
    (hs : members.HasStringKeys) (hk : members.HasDistinctKeys)
    (hd : ∀ e ∈ members, e.2.isUndefined = false)
    (h : (validate (.object keywords) (.object members) place).result = .ok (.valid result)) :
    ∃ completed : Entries, result = .object completed ∧ completed.HasDistinctKeys ∧
      (∀ key, key ∈ completed.keys ↔
        (key ∈ members.keys ∧ isDropped keywords members place key = false) ∨
          HasDefault keywords members key) ∧
      (∀ key ∈ completed.keys,
        (decidingVisit keywords members place key).key = key ∧
          (decidingVisit keywords members place key).value = members.get key ∧
          (decidingVisit keywords members place key).verdict = .valid (completed.get key)) ∧
      (∀ key ∈ members.keys, isExtra keywords members place key = true →
        additionalSchema keywords = .bool true → completed.get key = members.get key) ∧
      completed.keys = Entries.keys (filled (declaredVisits keywords members place))
        ++ (Entries.firstKeys ((patternVisits keywords members place).map Visit.key)).filter
          (!Entries.contains (filled (declaredVisits keywords members place)) ·)
        ++ (Entries.keys (extras keywords members place)).filter
          (!isDropped keywords members place ·) := by
  obtain ⟨ha, rfl⟩ := accepted_of_valid ht hp hu hs hk h
  exact ⟨_, rfl, ha.distinctKeys_completedMembers hd, fun _ => ha.mem_keys_completedMembers hd,
    fun _ => ha.verdict_decidingVisit hd, fun _ => ha.get_of_extra hd, ha.keys_completedMembers hd⟩

def itemKeywords : Entries :=
  [(.string "type", .string "object"),
    (.string "properties", .object [
      (.string "title", .object [(.string "type", .string "string")]),
      (.string "stock",
        .object [(.string "type", .string "number"), (.string "default", .int 1)])]),
    (.string "patternProperties",
      .object [(.string "^p", .object [(.string "type", .string "number")])]),
    (.string "additionalProperties", .object [(.string "type", .string "string")])]

def itemMembers : Entries :=
  [(.string "note", .string "new"), (.string "weight", .int 0), (.string "price", .int 5),
    (.string "title", .string "lamp")]

theorem completion_of_object_item :
    itemKeywords.named? "type" = some (.string "object") ∧
      (childrenOf itemKeywords "properties").HasDistinctKeys ∧ NoUnionBelow itemKeywords ∧
      itemMembers.HasStringKeys ∧ itemMembers.HasDistinctKeys ∧
      (∀ e ∈ itemMembers, Value.isUndefined e.2 = false) ∧
      ∃ completed : Entries, (validate (.object itemKeywords) (.object itemMembers) .start).result =
          .ok (.valid (.object completed)) ∧
        completed.keys.map Value.text = (["title", "stock", "price", "note"] : List Text) := by
  have ht : itemKeywords.named? "type" = some (.string "object") := by simp [itemKeywords]
  have hp : (childrenOf itemKeywords "properties").HasDistinctKeys := by decide +kernel
  have hu : NoUnionBelow itemKeywords := by
    refine ⟨?_, ?_, ?_⟩ <;> decide +kernel
  have hs : itemMembers.HasStringKeys := by decide
  have hk : itemMembers.HasDistinctKeys := by decide +kernel
  have hd : ∀ e ∈ itemMembers, Value.isUndefined e.2 = false := by decide
  obtain ⟨result, h⟩ := exists_of_isValid
    (show (validate (.object itemKeywords) (.object itemMembers) .start).result.toOption.any
      Verdict.isValid = true by decide +kernel)
  obtain ⟨completed, rfl, -, -, -, -, hkeys⟩ := completion_of_object ht hp hu hs hk hd h
  refine ⟨ht, hp, hu, hs, hk, hd, completed, h, ?_⟩
  rw [hkeys]
  decide +kernel

end JsonSchema.Validation
