import JsonSchema.Proofs.Content.Verdict
import JsonSchema.Proofs.Object.Accepted

/-!
Alike objects put to alike nodes.

The order of members decides in which order the visits are made, but not which visits there are:
every visit of one object has an agreeing one of the other. Whether there is a verdict, and whether
it accepts, are questions about all visits, so they have the same answers. The last visit of a key
decides what is left under it; where the schemas have the same order, these visits agree too.
-/

namespace JsonSchema

open Value Validation

/-- Visits of one key whose members are alike and whose verdicts agree. -/
structure Visit.Agrees (sameOrder : Prop) (u v : Visit) : Prop where
  key : u.key = v.key
  value : Alike u.value v.value
  verdicts : VerdictsAgree sameOrder (validate u.schema u.value u.place)
    (validate v.schema v.value v.place)

namespace Visit.Agrees

variable {sameOrder : Prop} {u v : Visit} (h : Visit.Agrees sameOrder u v)

include h

lemma answers_iff : u.Answers ↔ v.Answers := h.verdicts.hasAnswer_iff

lemma verdict : Verdict.Agrees sameOrder u.verdict v.verdict := by
  have hv := h.verdicts
  unfold Visit.verdict
  cases hu : (validate u.schema u.value u.place).result with
  | ok a =>
    obtain ⟨b, hb, hab⟩ := hv.of_ok hu
    rw [hb]
    exact hab
  | error f =>
    cases hw : (validate v.schema v.value v.place).result with
    | ok b => exact absurd (hv.hasAnswer_iff.2 ⟨b, hw⟩) (hu ▸ hasAnswer_error f)
    | error g => exact .invalid Iff.rfl

lemma isSuppressed_eq : u.isSuppressed = v.isSuppressed := by
  rw [Visit.isSuppressed, Visit.isSuppressed, h.verdict.isValid, h.value.falsy_eq]

lemma settles_iff : u.Settles ↔ v.Settles := by
  rw [Visit.Settles, Visit.Settles, h.answers_iff, h.verdict.isValid, h.value.hasAnswer_isFalsy]

/-- Violations count unless the member is falsy. -/
lemma violations_iff : (if u.value.falsy then [] else u.violations) = [] ↔
    (if v.value.falsy then [] else v.violations) = [] := by
  rw [h.value.falsy_eq]
  split
  · simp
  · exact h.verdict.clean

lemma result (ho : sameOrder) : Alike u.result v.result := by
  have hverdict := h.verdict
  unfold Visit.result
  cases hu : u.verdict with
  | valid r =>
    cases hv : v.verdict with
    | valid s => exact hverdict.result ho r s hu hv
    | invalid ws => simpa [hu, hv, Verdict.isValid] using hverdict.isValid
  | invalid vs =>
    cases hv : v.verdict with
    | valid s => simpa [hu, hv, Verdict.isValid] using hverdict.isValid
    | invalid ws => exact alike_undefined

lemma left? (ho : sameOrder) : Option.Rel Alike u.left? v.left? := by
  unfold Visit.left?
  rw [(h.result ho).isUndefined_eq]
  split
  · exact .none
  · exact .some (h.result ho)

end Visit.Agrees

namespace Validation

variable {keywords keywords' members members' : Entries} {p q : Place}

/-- Two nodes have their keywords in the same order, and so on at every depth. -/
abbrev SameOrder (keywords keywords' : Entries) : Prop :=
  (object keywords).layout = (object keywords').layout

/-! ### Schemas of members -/

lemma childrenOf_of_not_object {name : String}
    (h : ∀ es, keywords.named? name ≠ some (object es)) : childrenOf keywords name = [] := by
  by_contra hne
  obtain ⟨e, he⟩ := List.exists_mem_of_ne_nil _ hne
  exact h _ (named?_of_mem_childrenOf he)

/-- Schemas of the same name or pattern agree. -/
structure ChildAgrees (sameOrder : Prop) (e f : Value × Value) : Prop where
  key : e.1 = f.1
  isString : e.1.isString = true
  schemas : SchemasAgree e.2 f.2
  order : sameOrder → e.2.layout = f.2.layout

section

variable (h : NodesAlike keywords keywords')

include h

lemma childrenOf_alike (name : String) :
    (childrenOf keywords name).Alike (childrenOf keywords' name) := by
  have hchildren := children_agree h.alike name
  unfold childrenOf
  cases hc : keywords.children name with
  | ok es =>
    obtain ⟨fs, hfs, hes⟩ := hchildren.of_ok hc
    rw [hfs]
    exact hes
  | error f =>
    cases hd : keywords'.children name with
    | ok fs => exact absurd (hchildren.hasAnswer_iff.2 ⟨fs, hd⟩) (hc ▸ hasAnswer_error f)
    | error g => exact Entries.alike_nil

lemma child_agrees {name : String} {e f : Value × Value} (he : e ∈ childrenOf keywords name)
    (hf : f ∈ childrenOf keywords' name) (hkey : e.1 = f.1) :
    ChildAgrees (SameOrder keywords keywords') e f := by
  have halike := childrenOf_alike h name
  have hn := named?_of_mem_childrenOf he
  have hn' := named?_of_mem_childrenOf hf
  have hget := Entries.get?_of_mem halike.left.distinctKeys he
  have hget' := Entries.get?_of_mem halike.right.distinctKeys hf
  have hef : Alike e.2 f.2 := by
    have hrel := halike.lookup e.1
    rw [hget, hkey, hget'] at hrel
    cases hrel with
    | some hrel => exact hrel
  have hdepth := Entries.depth_of_get? hn
  have hlt := depth_le_depthOfEntries he
  simp only [depth] at hdepth
  refine ⟨hkey, halike.left.stringKeys e he, h.below hef (by omega) ?_, fun ho => ?_⟩
  · exact (everyPart_of_entry (everyPart_of_get? h.lacksDivisor hn) e he).2
  · exact layout_get? (layout_get? ho hn hn') hget (hkey ▸ hget')

lemma children_matched (name : String) :
    Matched (ChildAgrees (SameOrder keywords keywords')) (childrenOf keywords name)
      (childrenOf keywords' name) := by
  have hmatched := (childrenOf_alike h name).matched
  refine ⟨fun e he => ?_, fun f hf => ?_⟩
  · obtain ⟨f, hf, hef⟩ := hmatched.left e he
    exact ⟨f, hf, child_agrees h he hf hef.1⟩
  · obtain ⟨e, he, hef⟩ := hmatched.right f hf
    exact ⟨e, he, child_agrees h he hf hef.1⟩

lemma layout_childrenOf (ho : SameOrder keywords keywords') (name : String) :
    SameOrder (childrenOf keywords name) (childrenOf keywords' name) := by
  rcases option_rel_iff.1 (h.alike.lookup (.string name)) with ⟨hv, hw⟩ | ⟨v, w, hv, hw, hvw⟩
  · rw [childrenOf_of_not_object fun es hn => by simp [Entries.named?, hv] at hn,
      childrenOf_of_not_object fun es hn => by simp [Entries.named?, hw] at hn]
  · cases hvw.view with
    | object hes =>
      rw [childrenOf_of_object hv, childrenOf_of_object hw]
      exact layout_get? ho hv hw
    | _ =>
      rw [childrenOf_of_not_object fun es hn => by simp [Entries.named?, hv] at hn,
        childrenOf_of_not_object fun es hn => by simp [Entries.named?, hw] at hn]

/-- In the same order, schemas agree one by one. -/
lemma children_forall₂ (ho : SameOrder keywords keywords') (name : String) :
    List.Forall₂ (ChildAgrees (SameOrder keywords keywords')) (childrenOf keywords name)
      (childrenOf keywords' name) := by
  have hpairs := (childrenOf_alike h name).forall₂ (layout_childrenOf h ho name)
  exact (forall₂_mem hpairs).imp fun e f ⟨he, hf, hef⟩ => child_agrees h he hf hef.1

/-! ### Visits -/

variable (hm : members.Alike members')

include hm

omit h in
lemma declaredVisit_agrees {sameOrder : Prop} {e f : Value × Value}
    (hef : ChildAgrees sameOrder e f) :
    Visit.Agrees sameOrder (declaredVisit members p e) (declaredVisit members' q f) := by
  have hvalue : Alike (members.get e.1) (members'.get f.1) := hef.key ▸ hm.get e.1
  exact ⟨hef.key, hvalue, VerdictsAgree.mono (hef.schemas hvalue _ _) hef.order⟩

lemma declared_matched : Matched (Visit.Agrees (SameOrder keywords keywords'))
    (declaredVisits keywords members p) (declaredVisits keywords' members' q) :=
  (children_matched h "properties").map fun _ _ _ _ hef => declaredVisit_agrees hm hef

omit h hm in
lemma patternVisit_agrees {sameOrder : Prop} {e f d c : Value × Value}
    (hef : ChildAgrees sameOrder e f) (hdc : d.1 = c.1 ∧ Alike d.2 c.2) :
    Visit.Agrees sameOrder ⟨d.1, e.2, d.2, p.patternProperty e.1 d.1⟩
      ⟨c.1, f.2, c.2, q.patternProperty f.1 c.1⟩ :=
  ⟨hdc.1, hdc.2, VerdictsAgree.mono (hef.schemas hdc.2 _ _) hef.order⟩

lemma pattern_matched : Matched (Visit.Agrees (SameOrder keywords keywords'))
    (patternVisits keywords members p) (patternVisits keywords' members' q) := by
  refine (children_matched h "patternProperties").flatMap fun e _ f _ hef => ?_
  have hmatching := hm.matched.filter (p := fun d => matchesPattern e.1 (Value.text d.1))
    (q := fun c => matchesPattern f.1 (Value.text c.1)) fun d _ c _ hdc => by rw [hef.key, hdc.1]
  exact hmatching.map fun d _ c _ hdc => patternVisit_agrees hef hdc

lemma isExtra_eq (key : Value) :
    isExtra keywords members p key = isExtra keywords' members' q key := by
  unfold isExtra
  congr 1
  · rw [(children_matched h "patternProperties").any_eq fun e _ f _ hef => by rw [hef.key]]
  · exact (declared_matched h hm).all_eq fun u _ v _ huv => by rw [huv.key, huv.isSuppressed_eq]

lemma extras_matched : Matched (fun e f : Value × Value => e.1 = f.1 ∧ Alike e.2 f.2)
    (extras keywords members p) (extras keywords' members' q) :=
  hm.matched.filter fun e _ f _ hef => by
    rw [hef.1, hef.2.isUndefined_eq, isExtra_eq h hm]

omit hm in
lemma additionalSchema_agrees :
    Alike (additionalSchema keywords) (additionalSchema keywords') ∧
      SchemasAgree (additionalSchema keywords) (additionalSchema keywords') ∧
      (SameOrder keywords keywords' →
        (additionalSchema keywords).layout = (additionalSchema keywords').layout) := by
  unfold additionalSchema
  rcases option_rel_iff.1 (h.alike.defined? "additionalProperties") with
    ⟨hs, ht⟩ | ⟨s, t, hs, ht, hst⟩
  · rw [hs, ht]
    exact ⟨⟨rfl, rfl, by simp [jsonEqual]⟩, schemasAgree_bool true, fun _ => rfl⟩
  · rw [hs, ht]
    exact ⟨hst, h.schemasAgree hs hst, NodesAlike.layout_defined? hs ht⟩

omit hm in
lemma additionalVisit_agrees {e f : Value × Value} (hef : e.1 = f.1 ∧ Alike e.2 f.2) :
    Visit.Agrees (SameOrder keywords keywords') (additionalVisit p (additionalSchema keywords) e)
      (additionalVisit q (additionalSchema keywords') f) := by
  obtain ⟨-, hschemas, horder⟩ := additionalSchema_agrees h
  exact ⟨hef.1, hef.2, VerdictsAgree.mono (hschemas hef.2 _ _) horder⟩

lemma additional_matched : Matched (Visit.Agrees (SameOrder keywords keywords'))
    (additionalVisits keywords members p) (additionalVisits keywords' members' q) :=
  (extras_matched h hm).map fun _ _ _ _ hef => additionalVisit_agrees h hef

omit hm in
/-- Additional members are refused altogether on both sides or on none. -/
lemma additionalSchema_eq_bool (b : Bool) :
    additionalSchema keywords = .bool b ↔ additionalSchema keywords' = .bool b := by
  have hs := (additionalSchema_agrees h).1
  generalize additionalSchema keywords = s at hs ⊢
  generalize additionalSchema keywords' = t at hs ⊢
  cases hs.view <;> simp

/-! ### Names -/

omit h hm in
lemma nameVerdict_agree {schema schema' : Value} (hs : Alike schema schema')
    (hagree : SchemasAgree schema schema') (key : Value) :
    VerdictsAgree False (nameVerdict validate schema key p)
      (nameVerdict validate schema' key q) := by
  have hother : VerdictsAgree False (validate schema (.string key.text) p)
      (validate schema' (.string key.text) q) :=
    VerdictsAgree.mono (hagree (alike_string key.text) p q) False.elim
  cases hs.view with
  | object hes =>
    refine related_bind (reasonsAgree_string hes (alike_string key.text) _ _) fun _ _ hr => ?_
    exact .ok (.verdictOf (by rw [violationsAt_eq_nil, violationsAt_eq_nil, hr]) False.elim)
  | _ => exact hother

lemma namesSettle_iff : NamesSettle keywords members p ↔ NamesSettle keywords' members' q := by
  unfold NamesSettle
  rcases option_rel_iff.1 (h.alike.defined? "propertyNames") with ⟨hs, ht⟩ | ⟨s, t, hs, ht, hst⟩
  · simp [hs, ht]
  · simp only [hs, ht, Option.some.injEq, forall_eq']
    refine hm.matched.forall_iff fun e _ f _ hef => ?_
    rw [hef.1]
    exact (nameVerdict_agree hst (h.schemasAgree hs hst) f.1).hasAnswer_iff

/-! ### All steps -/

lemma objectSettles_iff :
    ObjectSettles keywords members p ↔ ObjectSettles keywords' members' q := by
  have hvalue : Alike (object members) (object members') := alike_object.2 hm
  have hguard := (reasonsAgree_guard h.alike .object .json hvalue).hasAnswer_iff
  have hrequired := (reasonsAgree_required h.alike hm).hasAnswer_iff
  have hproperties := (children_agree h.alike "properties").hasAnswer_iff
  have hpatterns := (children_agree h.alike "patternProperties").hasAnswer_iff
  have hdeclared := (declared_matched (p := p) (q := q) h hm).forall_iff
    fun _ _ _ _ huv => huv.settles_iff
  have hmatching := (children_matched h "patternProperties").forall_iff
    (p := fun e => ∀ d ∈ members, MatchSettles p e d)
    (q := fun f => ∀ c ∈ members', MatchSettles q f c) fun e _ f _ hef =>
      hm.matched.forall_iff fun d _ c _ hdc => by
        unfold MatchSettles
        rw [(patternVisit_agrees hef hdc).answers_iff, hef.key, hdc.1]
        obtain ⟨s, hs⟩ := isString_iff.1 (hef.key ▸ hef.isString)
        exact and_congr_left' (patternOccurs_agree (hs ▸ alike_string s) _ _ _).hasAnswer_iff
  have hadditional :
      AdditionalSettles keywords members p ↔ AdditionalSettles keywords' members' q :=
    or_congr (additionalSchema_eq_bool h false)
      ((additional_matched h hm).forall_iff fun _ _ _ _ huv => huv.settles_iff)
  have hnames := namesSettle_iff (p := p) (q := q) h hm
  have hfewer := (reasonsAgree_minCount h.alike hm).hasAnswer_iff
  have hmore := (reasonsAgree_maxCount h.alike hm).hasAnswer_iff
  constructor
  · intro hs
    exact ⟨hguard.1 hs.guard, hrequired.1 hs.required, hproperties.1 hs.properties,
      hdeclared.1 hs.declared, hpatterns.1 hs.patterns, hmatching.1 hs.matching,
      hadditional.1 hs.additional, hnames.1 hs.names, hfewer.1 hs.fewer, hmore.1 hs.more⟩
  · intro hs
    exact ⟨hguard.2 hs.guard, hrequired.2 hs.required, hproperties.2 hs.properties,
      hdeclared.2 hs.declared, hpatterns.2 hs.patterns, hmatching.2 hs.matching,
      hadditional.2 hs.additional, hnames.2 hs.names, hfewer.2 hs.fewer, hmore.2 hs.more⟩

/-! ### Violations -/

omit h hm in
lemma refusals_iff {x y : Reasons} (hxy : ReasonsAgree x y) {rs ts : List Reason} (hx : x = .ok rs)
    (hy : y = .ok ts) : rs = [] ↔ ts = [] := by
  subst hx hy
  exact hxy.answers_of_ok

lemma namesViolations_iff (hs : NamesSettle keywords members p)
    (ht : NamesSettle keywords' members' q) :
    namesViolations keywords members p = [] ↔ namesViolations keywords' members' q = [] := by
  unfold namesViolations
  rcases option_rel_iff.1 (h.alike.defined? "propertyNames") with ⟨hd, hd'⟩ | ⟨s, t, hd, hd', hst⟩
  · simp [hd, hd']
  · simp only [hd, hd', List.flatMap_eq_nil_iff, Entries.keys, List.forall_mem_map]
    refine hm.matched.forall_iff fun e he f hf hef => ?_
    obtain ⟨a, ha⟩ := hs s hd e he
    obtain ⟨b, hb⟩ := ht t hd' f hf
    have hab := nameVerdict_agree (p := p.keyword "propertyNames") (q := q.keyword "propertyNames")
      hst (h.schemasAgree hd hst) f.1
    rw [hef.1] at ha ⊢
    rw [VerdictsAgree, ha, hb] at hab
    rw [← nameVerdict_eq_ok ha, ← nameVerdict_eq_ok hb]
    exact hab.answers_of_ok.clean

omit h hm in
lemma additionalViolations_of_schema (ht : additionalSchema keywords ≠ .bool true)
    (hf : additionalSchema keywords ≠ .bool false) :
    additionalViolations keywords members p = (additionalVisits keywords members p).flatMap fun v =>
      if v.value.falsy then [] else v.violations := by
  unfold additionalViolations
  split <;> first | contradiction | rfl

lemma additionalViolations_iff : additionalViolations keywords members p = [] ↔
    additionalViolations keywords' members' q = [] := by
  have hextras : extras keywords members p = [] ↔ extras keywords' members' q = [] := by
    rw [← List.isEmpty_iff, ← List.isEmpty_iff, (extras_matched h hm).isEmpty_eq]
  have hvisits := (additional_matched (p := p) (q := q) h hm).forall_iff
    (p := fun u => (if u.value.falsy then [] else u.violations) = [])
    (q := fun v => (if v.value.falsy then [] else v.violations) = [])
    fun u _ v _ huv => huv.violations_iff
  rw [← List.flatMap_eq_nil_iff, ← List.flatMap_eq_nil_iff] at hvisits
  by_cases ht : additionalSchema keywords = .bool true
  · have ht' := (additionalSchema_eq_bool h true).1 ht
    simp [additionalViolations, ht, ht']
  · have ht' := mt (additionalSchema_eq_bool h true).2 ht
    by_cases hf : additionalSchema keywords = .bool false
    · have hf' := (additionalSchema_eq_bool h false).1 hf
      simp [additionalViolations, hf, hf', hextras]
    · have hf' := mt (additionalSchema_eq_bool h false).2 hf
      rw [additionalViolations_of_schema ht hf, additionalViolations_of_schema ht' hf', hvisits]

/-- Whether an object is refused does not depend on the order of members. -/
lemma objectViolations_iff (hs : ObjectSettles keywords members p)
    (ht : ObjectSettles keywords' members' q) :
    objectViolations keywords members p = [] ↔ objectViolations keywords' members' q = [] := by
  obtain ⟨guard, hguard⟩ := hs.guard
  obtain ⟨guard', hguard'⟩ := ht.guard
  obtain ⟨required, hreq⟩ := hs.required
  obtain ⟨required', hreq'⟩ := ht.required
  obtain ⟨fewer, hfewer⟩ := hs.fewer
  obtain ⟨fewer', hfewer'⟩ := ht.fewer
  obtain ⟨more, hmore⟩ := hs.more
  obtain ⟨more', hmore'⟩ := ht.more
  have hvalue : Alike (object members) (object members') := alike_object.2 hm
  have hdeclared := (declared_matched (p := p) (q := q) h hm).forall_iff
    (p := fun u => (if u.value.falsy then [] else u.violations) = [])
    (q := fun v => (if v.value.falsy then [] else v.violations) = [])
    fun u _ v _ huv => huv.violations_iff
  have hpattern := (pattern_matched (p := p) (q := q) h hm).forall_iff
    (p := fun u => u.violations = []) (q := fun v => v.violations = [])
    fun u _ v _ huv => huv.verdict.clean
  simp only [objectViolations, List.append_eq_nil_iff, List.flatMap_eq_nil_iff,
    violationsAt_eq_nil, ← guardReasons_eq_ok hguard, ← guardReasons_eq_ok hguard',
    ← requiredReasons_eq_ok hreq, ← requiredReasons_eq_ok hreq',
    ← countReasons_eq_ok hfewer hmore, ← countReasons_eq_ok hfewer' hmore']
  rw [refusals_iff (reasonsAgree_guard h.alike .object .json hvalue) hguard hguard',
    refusals_iff (reasonsAgree_required h.alike hm) hreq hreq',
    refusals_iff (reasonsAgree_minCount h.alike hm) hfewer hfewer',
    refusals_iff (reasonsAgree_maxCount h.alike hm) hmore hmore',
    hdeclared, hpattern, additionalViolations_iff h hm, namesViolations_iff h hm hs.names ht.names]

/-! ### Results -/

omit h in
/-- Visits of members, looked at under one key. -/
lemma visits_forall₂ {sameOrder : Prop} {P Q : Value × Value → Bool} {F G : Value × Value → Visit}
    (hF : ∀ e, (F e).key = e.1) (hG : ∀ f, (G f).key = f.1)
    (hPQ : ∀ e f : Value × Value, e.1 = f.1 ∧ Alike e.2 f.2 → P e = Q f)
    (hFG : ∀ e f : Value × Value, e.1 = f.1 ∧ Alike e.2 f.2 → Visit.Agrees sameOrder (F e) (G f))
    (key : Value) :
    List.Forall₂ (Visit.Agrees sameOrder)
      (((List.filter P members).map F).filter fun v => same v.key key)
      (((List.filter Q members').map G).filter fun v => same v.key key) := by
  have hmembers := forall₂_filter (hm.forall₂_key key) hPQ
  simp only [List.filter_map, Function.comp_def, hF, hG]
  rw [List.filter_comm, List.filter_comm (fun f : Value × Value => same f.1 key),
    List.forall₂_map_left_iff, List.forall₂_map_right_iff]
  exact hmembers.imp hFG

/-- Under one key, the same visits are made in the same order. -/
lemma visits_of_key (ho : SameOrder keywords keywords') (key : Value) :
    List.Forall₂ (Visit.Agrees (SameOrder keywords keywords'))
      ((mergedVisits keywords members p ++ (additionalVisits keywords members p).filter
        (!·.isSuppressed)).filter fun v => same v.key key)
      ((mergedVisits keywords' members' q ++ (additionalVisits keywords' members' q).filter
        (!·.isSuppressed)).filter fun v => same v.key key) := by
  have hdeclared : List.Forall₂ (Visit.Agrees (SameOrder keywords keywords'))
      (declaredVisits keywords members p) (declaredVisits keywords' members' q) := by
    unfold declaredVisits
    rw [List.forall₂_map_left_iff, List.forall₂_map_right_iff]
    exact (children_forall₂ h ho "properties").imp fun _ _ hef => declaredVisit_agrees hm hef
  have hpattern : List.Forall₂ (Visit.Agrees (SameOrder keywords keywords'))
      ((patternVisits keywords members p).filter fun v => same v.key key)
      ((patternVisits keywords' members' q).filter fun v => same v.key key) := by
    simp only [patternVisits, List.filter_flatMap]
    refine List.rel_flatMap (children_forall₂ h ho "patternProperties") fun e f hef => ?_
    exact visits_forall₂ hm (fun _ => rfl) (fun _ => rfl) (fun _ _ hdc => by rw [hef.key, hdc.1])
      (fun _ _ hdc => patternVisit_agrees hef hdc) key
  have hadditional : List.Forall₂ (Visit.Agrees (SameOrder keywords keywords'))
      ((additionalVisits keywords members p).filter fun v => same v.key key)
      ((additionalVisits keywords' members' q).filter fun v => same v.key key) :=
    visits_forall₂ hm (fun _ => rfl) (fun _ => rfl)
      (fun _ _ hef => by rw [hef.1, hef.2.isUndefined_eq, isExtra_eq h hm])
      (fun _ _ hef => additionalVisit_agrees h hef) key
  have hunsuppressed := fun u v (huv : Visit.Agrees (SameOrder keywords keywords') u v) =>
    congrArg (!·) huv.isSuppressed_eq
  have hkey := forall₂_filter (p := fun u => same u.key key) (q := fun v => same v.key key)
    (forall₂_filter hdeclared hunsuppressed) fun u v huv => by rw [huv.key]
  simp only [mergedVisits, List.filter_append]
  refine List.rel_append (List.rel_append hkey hpattern) ?_
  rw [List.filter_comm, List.filter_comm (fun v : Visit => same v.key key)]
  exact forall₂_filter hadditional hunsuppressed

omit h hm in
/-- All visits are of keys that are strings. -/
lemma isString_of_visit (hc : (childrenOf keywords "properties").HasStringKeys)
    (hs : members.HasStringKeys) :
    ∀ v ∈ mergedVisits keywords members p ++
      (additionalVisits keywords members p).filter (!·.isSuppressed), v.key.isString = true := by
  intro v hv
  simp only [mergedVisits, List.mem_append, List.mem_filter] at hv
  rcases hv with (⟨hv, -⟩ | hv) | ⟨hv, -⟩
  · obtain ⟨e, he, rfl⟩ := List.mem_map.1 hv
    exact hc e he
  · obtain ⟨_, -, e, he, -, rfl⟩ := mem_patternVisits.1 hv
    exact hs e he
  · obtain ⟨e, he, rfl⟩ := List.mem_map.1 hv
    exact hs e (mem_extras.1 he).1

lemma completedMembers_alike (ho : SameOrder keywords keywords') :
    (completedMembers keywords members p).Alike (completedMembers keywords' members' q) := by
  have hchildren := childrenOf_alike h "properties"
  have hs := isString_of_visit (p := p) hchildren.left.stringKeys hm.left.stringKeys
  have hs' := isString_of_visit (p := q) hchildren.right.stringKeys hm.right.stringKeys
  have hstrings : ObjectPart.empty.members.HasStringKeys := nofun
  have hdistinct : ObjectPart.empty.members.HasDistinctKeys := .nil
  refine Entries.alike_of_lookup (ObjectPart.stringKeys_mergeAll hstrings hs)
    (ObjectPart.distinctKeys_mergeAll hdistinct _) (ObjectPart.stringKeys_mergeAll hstrings hs')
    (ObjectPart.distinctKeys_mergeAll hdistinct _) fun key => ?_
  unfold completedMembers
  rw [ObjectPart.get?_mergeAll hs, ObjectPart.get?_mergeAll hs']
  rcases option_rel_iff.1 (forall₂_getLast? (visits_of_key (p := p) (q := q) h hm ho key)) with
    ⟨hu, hv⟩ | ⟨u, v, hu, hv, huv⟩
  · rw [hu, hv]
    exact .none
  · rw [hu, hv]
    exact huv.left? ho

/-- Alike objects have agreeing verdicts. -/
lemma object_agrees (ht : keywords.named? "type" = some (.string "object"))
    (ht' : keywords'.named? "type" = some (.string "object")) :
    VerdictsAgree (SameOrder keywords keywords') (validate (.object keywords) (.object members) p)
      (validate (.object keywords') (.object members') q) := by
  have hclear := hm.left.stringKeys.clear
  have hclear' := hm.right.stringKeys.clear
  refine .of_hasAnswer ?_ fun a b ha hb => ?_
  · rw [hasAnswer_validate_object ht hclear, hasAnswer_validate_object ht' hclear',
      objectSettles_iff h hm]
  · have hs := (hasAnswer_validate_object ht hclear).1 ⟨a, ha⟩
    have hs' := (hasAnswer_validate_object ht' hclear').1 ⟨b, hb⟩
    rw [(validate_object_of_clear ht hclear ha).2, (validate_object_of_clear ht' hclear' hb).2]
    refine .verdictOf (objectViolations_iff h hm hs hs') fun ho _ _ => alike_object.2 ?_
    exact completedMembers_alike h hm ho

end

end Validation

end JsonSchema
