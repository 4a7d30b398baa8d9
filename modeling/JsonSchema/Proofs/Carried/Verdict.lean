import JsonSchema.Proofs.Carried.Checks

/-!
What verdicts tell has been there before.

Validation only ever puts together parts of the schema and of the value, under keys that they have.
Main statement: what is carried, and holds of all parts of the schema, of the value and of the
place, holds of all that the verdict tells. The checks of one node are gone through one after the
other; the run follows by induction on the depth of the schema.
-/

namespace JsonSchema

open Validation Outcome

/-! ### Verdicts -/

section

variable {p isKey : Value → Bool}

lemma holdsOf_elementResult (hp : IsCarried p isKey) {verdict : Verdict}
    (h : HoldsOf p verdict.values) : (elementResult verdict).everyPart p = true := by
  cases verdict with
  | valid result =>
    simp only [elementResult]
    split
    · exact hp.null
    · exact h result List.mem_cons_self
  | invalid => exact hp.null

lemma holdsOf_verdictOf {value : Value} {violations : List Violation}
    (hv : value.everyPart p = true) (h : ∀ v ∈ violations, HoldsOf p v.values) :
    HoldsOf p (verdictOf value violations).values := by
  cases violations with
  | nil => exact holdsOf_one hv
  | cons v rest => exact holdsOf_flatMap.2 h

lemma holdsOf_violation {violation : Violation} (hv : violation.value.everyPart p = true)
    (hs : violation.schema.everyPart p = true) (hr : HoldsOf p violation.reason.values)
    (hplace : HoldsOf p (violation.schemaLocation.values ++ violation.valuePath.values)) :
    HoldsOf p violation.values :=
  holdsOf_cons.2 ⟨hv, holdsOf_cons.2 ⟨hs, holdsOf_append.2 ⟨hr, hplace⟩⟩⟩

lemma holdsOf_violationsAt {keywords : Entries} {value : Value} {place : Place}
    {reasons : List Reason} (hs : (Value.object keywords).everyPart p = true)
    (hv : value.everyPart p = true) (hplace : HoldsOf p place.values)
    (h : ReasonsHold p reasons) :
    ∀ v ∈ violationsAt keywords value place reasons, HoldsOf p v.values := by
  intro v hm
  obtain ⟨reason, hr, rfl⟩ := List.mem_map.1 hm
  exact holdsOf_violation hv hs (h reason hr) hplace

end

/-! ### Arrays -/

/-- Validation against a schema tells nothing that is not so. -/
def Value.Carries (p : Value → Bool) (schema : Value) : Prop :=
  ∀ (value : Value) (place : Place), value.everyPart p = true → HoldsOf p place.values →
    AnswersAre (fun verdict => HoldsOf p verdict.values) (validate schema value place).result

section

variable {p isKey : Value → Bool} {keywords : Entries} {place : Place}

/-- The schemas below a node carry what holds of them. -/
def CarriesBelow (p : Value → Bool) (keywords : Entries) : Prop :=
  ∀ child : Value, child.depth ≤ Value.depthOfEntries keywords → child.everyPart p = true →
    child.Carries p

variable (hp : IsCarried p isKey) (hplace : HoldsOf p place.values)

include hp hplace

lemma carries_listVerdicts {schema : Value} (h : schema.Carries p) {index : Nat}
    {items : List Value} (hi : HoldsOf p items) :
    AnswersAre (∀ verdict ∈ ·, HoldsOf p verdict.values)
      (listVerdicts validate schema place index items).result := by
  induction items generalizing index with
  | nil => exact .pure (List.forall_mem_nil _)
  | cons item rest ih =>
    obtain ⟨hitem, hrest⟩ := holdsOf_cons.1 hi
    refine .andThen (h item _ hitem (hp.holdsOf_listElement hplace index)) fun _ hverdict => ?_
    exact .andThen (ih hrest) fun _ hverdicts =>
      .pure (List.forall_mem_cons.2 ⟨hverdict, hverdicts⟩)

lemma carries_tupleVerdicts {schemas items : List Value} {index : Nat}
    (h : ∀ schema ∈ schemas, schema.Carries p) (hi : HoldsOf p items) :
    AnswersAre (∀ verdict ∈ ·, HoldsOf p verdict.values)
      (tupleVerdicts validate place index schemas items).result := by
  induction schemas generalizing index items with
  | nil => cases items <;> exact .pure (List.forall_mem_nil _)
  | cons schema schemas ih =>
    cases items with
    | nil => exact .pure (List.forall_mem_nil _)
    | cons item rest =>
      obtain ⟨hschema, hschemas⟩ := List.forall_mem_cons.1 h
      obtain ⟨hitem, hrest⟩ := holdsOf_cons.1 hi
      refine .andThen (hschema item _ hitem (hp.holdsOf_tupleElement hplace index))
        fun _ hverdict => ?_
      exact .andThen (ih hschemas hrest) fun _ hverdicts =>
        .pure (List.forall_mem_cons.2 ⟨hverdict, hverdicts⟩)

omit hplace in
lemma holdsOf_ofVerdicts {verdicts : List Verdict} (h : ∀ v ∈ verdicts, HoldsOf p v.values) :
    (Value.list (ElementsPart.ofVerdicts verdicts).results).everyPart p = true ∧
      ∀ v ∈ (ElementsPart.ofVerdicts verdicts).violations, HoldsOf p v.values := by
  constructor
  · refine hp.everyPart_array.2 fun v hv => ?_
    obtain ⟨verdict, hm, rfl⟩ := List.mem_map.1 hv
    exact holdsOf_elementResult hp (h verdict hm)
  · intro v hv
    obtain ⟨verdict, hm, hv⟩ := List.mem_flatMap.1 hv
    exact Verdict.holdsOf_violations (h verdict hm) v hv

variable (hs : (Value.object keywords).everyPart p = true) (hbelow : CarriesBelow p keywords)

omit hp hplace in
include hs hbelow in
lemma carries_defined? {name : String} {schema : Value}
    (hd : keywords.defined? name = some schema) : schema.Carries p :=
  have hn := Entries.named?_of_defined? hd
  hbelow schema (Entries.depth_of_get? hn) (everyPart_named? hs hn)

include hs hbelow

lemma carries_elementsPart {kind : ArrayKind} {items : List Value}
    (hv : (Value.array kind items).everyPart p = true) :
    AnswersAre (fun r => r.1.everyPart p = true ∧ ∀ v ∈ r.2, HoldsOf p v.values)
      (elementsPart validate keywords items (.array kind items) place).result := by
  have hi := hp.everyPart_array.1 hv
  unfold elementsPart
  split
  · exact .pure ⟨hv, List.forall_mem_nil _⟩
  · rename_i kind' schemas hd
    have hn := Entries.named?_of_defined? hd
    have hschemas := hp.everyPart_array.1 (everyPart_named? hs hn)
    split
    · exact .pure ⟨hp.everyPart_array.2 holdsOf_nil, holdsOf_violationsAt hs hv hplace
        (List.forall_mem_singleton.2 holdsOf_nil)⟩
    · refine .andThen (carries_tupleVerdicts hp hplace (fun schema hm => ?_) hi) fun _ h =>
        .pure (holdsOf_ofVerdicts hp h)
      have hdepth := Entries.depth_of_get? hn
      have hlt := Value.depth_le_depthOfItems hm
      simp only [Value.depth] at hdepth
      exact hbelow schema (by omega) (hschemas schema hm)
  · rename_i schema _ hd
    exact .andThen (carries_listVerdicts hp hplace (carries_defined? hs hbelow hd) hi) fun _ h =>
      .pure (holdsOf_ofVerdicts hp h)

lemma carries_validateArray {value : Value} (hv : value.everyPart p = true) :
    AnswersAre (fun verdict => HoldsOf p verdict.values)
      (validateArray validate keywords value place).result := by
  refine .andThen (x := liftM (guardReasons keywords .array .json value))
    (reasonsHold_guardReasons hs hp .array .json value) fun reasons hreasons => ?_
  have hguard := holdsOf_violationsAt hs hv hplace hreasons
  split
  · refine .andThen (carries_elementsPart hp hplace hs hbelow hv) fun r hr => .pure ?_
    exact holdsOf_verdictOf hr.1 (List.forall_mem_append.2 ⟨hguard, hr.2⟩)
  · exact .pure (holdsOf_verdictOf hv hguard)

end

/-! ### Objects -/

/-- What the steps of the object checks made so far tells nothing that is not so. -/
structure Validation.ObjectPart.Carries (p : Value → Bool) (part : ObjectPart) : Prop where
  members : (Value.object part.members).everyPart p = true
  violations : ∀ v ∈ part.violations, HoldsOf p v.values

namespace Validation.ObjectPart.Carries

variable {p isKey : Value → Bool} {part : ObjectPart}

lemma empty (hp : IsCarried p isKey) : ObjectPart.empty.Carries p :=
  ⟨hp.everyPart_empty, List.forall_mem_nil _⟩

lemma report (h : part.Carries p) {violations : List Violation}
    (hv : ∀ v ∈ violations, HoldsOf p v.values) : (part.report violations).Carries p :=
  ⟨h.members, List.forall_mem_append.2 ⟨h.violations, hv⟩⟩

lemma merge (h : part.Carries p) (hp : IsCarried p isKey) {key : Value} {verdict : Verdict}
    (hk : isKey key = true) (hkey : key.everyPart p = true) (hv : HoldsOf p verdict.values) :
    (part.merge key verdict).Carries p := by
  have herase : (Value.object (part.members.erase key)).everyPart p = true :=
    hp.everyPart_object.2 fun e he => hp.everyPart_object.1 h.members e (List.mem_filter.1 he).1
  refine ⟨?_, List.forall_mem_append.2 ⟨h.violations, Verdict.holdsOf_violations hv⟩⟩
  cases verdict with
  | valid result =>
    simp only [ObjectPart.merge]
    split
    · exact herase
    · exact hp.everyPart_insert h.members hk hkey (hv result List.mem_cons_self)
  | invalid => exact herase

end Validation.ObjectPart.Carries

section

variable {p isKey : Value → Bool} {keywords members : Entries} {place : Place} {part : ObjectPart}
  (hp : IsCarried p isKey) (hplace : HoldsOf p place.values)
  (hm : (Value.object members).everyPart p = true) (hpart : part.Carries p)

include hp hplace hm hpart

lemma carries_mergeProperties {children : Entries} (hc : ∀ e ∈ children,
      isKey e.1 = true ∧ e.1.everyPart p = true ∧ e.2.Carries p) :
    AnswersAre (ObjectPart.Carries p)
      (mergeProperties validate members place children part).result := by
  induction children generalizing part with
  | nil => exact .pure hpart
  | cons e rest ih =>
    obtain ⟨⟨hk, hkey, hchild⟩, hrest⟩ := List.forall_mem_cons.1 hc
    refine .andThen (hchild _ _ (hp.everyPart_get hm e.1)
      (hp.holdsOf_property hplace "properties" hkey)) fun verdict hverdict =>
        .after fun suppressed => ?_
    cases suppressed with
    | true => exact ih hpart hrest
    | false => exact ih (hpart.merge hp hk hkey hverdict) hrest

omit hm in
lemma carries_mergeMatching {pattern child : Value} {visited : Entries}
    (hpattern : pattern.everyPart p = true) (hchild : child.Carries p)
    (hv : (Value.object visited).everyPart p = true) :
    AnswersAre (ObjectPart.Carries p)
      (mergeMatching validate pattern child place visited part).result := by
  rw [hp.everyPart_object] at hv
  induction visited generalizing part with
  | nil => exact .pure hpart
  | cons e rest ih =>
    obtain ⟨⟨hk, hkey, hmember⟩, hrest⟩ := List.forall_mem_cons.1 hv
    refine .after fun found => ?_
    cases found with
    | true =>
      refine .andThen (hchild _ _ hmember (hp.holdsOf_patternProperty hplace hpattern hkey))
        fun verdict hverdict => ?_
      exact ih (hpart.merge hp hk hkey hverdict) hrest
    | false => exact ih hpart hrest

lemma carries_mergePatterns {children : Entries}
    (hc : ∀ e ∈ children, e.1.everyPart p = true ∧ e.2.Carries p) :
    AnswersAre (ObjectPart.Carries p)
      (mergePatterns validate members place children part).result := by
  induction children generalizing part with
  | nil => exact .pure hpart
  | cons e rest ih =>
    obtain ⟨⟨hpattern, hchild⟩, hrest⟩ := List.forall_mem_cons.1 hc
    exact .andThen (carries_mergeMatching hp hplace hpart hpattern hchild hm) fun next hn =>
      ih hn hrest

omit hm in
lemma carries_mergeAdditional {schema : Value} (h : schema.Carries p) {extra : Entries}
    (he : (Value.object extra).everyPart p = true) :
    AnswersAre (ObjectPart.Carries p)
      (mergeAdditional validate schema place extra part).result := by
  rw [hp.everyPart_object] at he
  induction extra generalizing part with
  | nil => exact .pure hpart
  | cons e rest ih =>
    obtain ⟨⟨hk, hkey, hmember⟩, hrest⟩ := List.forall_mem_cons.1 he
    refine .andThen (h _ _ hmember (hp.holdsOf_additionalProperty hplace hkey))
      fun verdict hverdict => .after fun suppressed => ?_
    cases suppressed with
    | true => exact ih hpart hrest
    | false => exact ih (hpart.merge hp hk hkey hverdict) hrest

omit hplace hpart in
/-- Members that are taken as they are. -/
lemma everyPart_taken {extra : Entries} (he : (Value.object extra).everyPart p = true) :
    (Value.object (extra.foldl (fun done e => Entries.insert done e.1 e.2) members)).everyPart p =
      true := by
  rw [hp.everyPart_object] at he
  induction extra generalizing members with
  | nil => exact hm
  | cons e rest ih =>
    obtain ⟨⟨hk, hkey, hmember⟩, hrest⟩ := List.forall_mem_cons.1 he
    exact ih (hp.everyPart_insert hm hk hkey hmember) hrest

variable (hs : (Value.object keywords).everyPart p = true) (hbelow : CarriesBelow p keywords)

include hs hbelow

lemma carries_additionalPart :
    AnswersAre (ObjectPart.Carries p)
      (additionalPart validate keywords members place part).result := by
  have hextra : (Value.object (extraMembers members part)).everyPart p = true :=
    hp.everyPart_object.2 fun e he => hp.everyPart_object.1 hm e (List.mem_filter.1 he).1
  have htaken : ObjectPart.Carries p { part with
      members := (extraMembers members part).foldl (fun done e => Entries.insert done e.1 e.2)
        part.members } := ⟨everyPart_taken hp hpart.members hextra, hpart.violations⟩
  unfold additionalPart
  simp only
  split
  · exact .pure hpart
  · split
    · exact .pure htaken
    · exact .pure htaken
    · refine .pure (hpart.report (List.forall_mem_singleton.2 ?_))
      refine holdsOf_violation hm (hp.bool false) (List.forall_mem_map.2 fun e he => ?_)
        (hp.holdsOf_keyword hplace "additionalProperties")
      exact (hp.everyPart_object.1 hextra e he).2.1
    · rename_i hd
      exact carries_mergeAdditional hp hplace hpart (carries_defined? hs hbelow hd) hextra

lemma carries_namesPart :
    AnswersAre (ObjectPart.Carries p) (namesPart validate keywords members place part).result := by
  unfold namesPart
  split
  · exact .pure hpart
  · rename_i schema hd
    have hbelowNames := hp.holdsOf_keyword hplace "propertyNames"
    have hschema := everyPart_named? hs (Entries.named?_of_defined? hd)
    have hname : ∀ key : Value, key.everyPart p = true →
        AnswersAre (fun verdict => HoldsOf p verdict.values)
          (nameVerdict validate schema key (place.keyword "propertyNames")).result := by
      intro key hkey
      cases schema with
      | object checks =>
        refine .andThen (x := liftM (stringReasons checks (.string key.text) _))
          (reasonsHold_stringReasons hschema hp _ _) fun reasons hreasons => .pure ?_
        exact holdsOf_verdictOf (hp.name key hkey)
          (holdsOf_violationsAt hschema (hp.name key hkey) hbelowNames hreasons)
      | _ => exact carries_defined? hs hbelow hd _ _ (hp.name key hkey) hbelowNames
    refine .andThen (P := (∀ v ∈ ·, HoldsOf p v.values)) ?_ fun _ hv => .pure (hpart.report hv)
    rw [hp.everyPart_object] at hm
    induction members with
    | nil => exact .pure (List.forall_mem_nil _)
    | cons e rest ih =>
      obtain ⟨⟨-, hkey, -⟩, hrest⟩ := List.forall_mem_cons.1 hm
      refine .andThen (hname e.1 hkey) fun verdict hverdict => ?_
      refine .andThen (ih hrest) fun more hmore => ?_
      exact .pure (List.forall_mem_append.2 ⟨Verdict.holdsOf_violations hverdict, hmore⟩)

omit hpart in
lemma carries_membersPart :
    AnswersAre (ObjectPart.Carries p) (membersPart validate keywords members place).result := by
  have hchildren : ∀ name children, keywords.children name = .ok children →
      ∀ e ∈ children, isKey e.1 = true ∧ e.1.everyPart p = true ∧ e.2.Carries p := by
    intro name children hc e he
    rw [← childrenOf_eq hc] at he
    have hn := named?_of_mem_childrenOf he
    obtain ⟨hk, hkey, hchild⟩ := hp.everyPart_object.1 (everyPart_named? hs hn) e he
    have hdepth := Entries.depth_of_get? hn
    have hlt := Value.depth_le_depthOfEntries he
    simp only [Value.depth] at hdepth
    exact ⟨hk, hkey, hbelow _ (by omega) hchild⟩
  have habout {reasons : List Reason} (h : ReasonsHold p reasons) :=
    holdsOf_violationsAt hs hm hplace h
  refine .andThen (x := liftM (requiredReasons keywords members))
    (reasonsHold_requiredReasons hs members hp) fun required hrequired => ?_
  refine .andThen (x := liftM (keywords.children _)) (hchildren "properties")
    fun properties hproperties => ?_
  refine .andThen (carries_mergeProperties hp hplace hm (.report (.empty hp) (habout hrequired))
    hproperties) fun declared hdeclared => ?_
  refine .andThen (x := liftM (keywords.children _)) (hchildren "patternProperties")
    fun patterns hpatterns => ?_
  refine .andThen (carries_mergePatterns hp hplace hm hdeclared fun e he => (hpatterns e he).2)
    fun matched hmatched => ?_
  refine .andThen (carries_additionalPart hp hplace hm hmatched hs hbelow) fun added hadded => ?_
  refine .andThen (carries_namesPart hp hplace hm hadded hs hbelow) fun named hnamed => ?_
  refine .andThen (x := liftM (minCountReasons keywords members))
    (reasonsHold_minCountReasons hs members) fun fewer hfewer => ?_
  refine .andThen (x := liftM (maxCountReasons keywords members))
    (reasonsHold_maxCountReasons hs members) fun more hmore => ?_
  exact .pure (hnamed.report (List.forall_mem_append.2 ⟨habout hfewer, habout hmore⟩))

end

/-! ### Schemas -/

section

variable {p isKey : Value → Bool} {keywords : Entries} {value : Value} {place : Place}
  (hp : IsCarried p isKey) (hplace : HoldsOf p place.values)
  (hs : (Value.object keywords).everyPart p = true)

include hp hplace hs

lemma holdsOf_absentVerdict : HoldsOf p (absentVerdict keywords place).values := by
  unfold absentVerdict
  split
  · rename_i default hd
    exact holdsOf_one (everyPart_named? hs (Entries.named?_of_defined? hd))
  · exact holdsOf_flatMap.2 (holdsOf_violationsAt hs hp.undefined hplace
      (List.forall_mem_singleton.2 holdsOf_nil))

variable (hv : value.everyPart p = true) (hbelow : CarriesBelow p keywords)

include hv hbelow

lemma carries_validateObject :
    AnswersAre (fun verdict => HoldsOf p verdict.values)
      (validateObject validate keywords value place).result := by
  refine .andThen (x := liftM (guardReasons keywords .object .json value))
    (reasonsHold_guardReasons hs hp .object .json value) fun reasons hreasons => ?_
  have hguard := holdsOf_violationsAt hs hv hplace hreasons
  split
  · refine .andThen (carries_membersPart hp hplace hv hs hbelow) fun part hpart => .pure ?_
    exact holdsOf_verdictOf hpart.members (List.forall_mem_append.2 ⟨hguard, hpart.violations⟩)
  · exact .pure (holdsOf_verdictOf hp.everyPart_empty hguard)

lemma carries_validateTyped (type : JsonType) :
    AnswersAre (fun verdict => HoldsOf p verdict.values)
      (validateTyped validate type keywords value place).result := by
  have hscalar {reasons : Reasons} (h : AnswersAre (ReasonsHold p) reasons) :
      AnswersAre (fun verdict => HoldsOf p verdict.values)
        (scalarVerdict keywords value place reasons).result :=
    .andThen (x := liftM reasons) h fun _ h =>
      .pure (holdsOf_verdictOf hv (holdsOf_violationsAt hs hv hplace h))
  cases type with
  | string => exact hscalar (reasonsHold_stringReasons hs hp value _)
  | number => exact hscalar (reasonsHold_numberReasons hs hp value)
  | integer => exact hscalar (reasonsHold_integerReasons hs hp value)
  | boolean | null => exact hscalar (.ok (reasonsHold_typeReasons _ value))
  | array => exact carries_validateArray hp hplace hs hbelow hv
  | object => exact carries_validateObject hp hplace hs hv hbelow

end

/-- **What a verdict tells has been there before.** What is carried and holds of all parts of a
schema holds of all that the verdicts by this schema tell, where it holds of the value and of the
place. -/
theorem IsCarried.carries {p isKey : Value → Bool} (hp : IsCarried p isKey) {schema : Value}
    (hs : schema.everyPart p = true) : schema.Carries p := by
  induction hd : schema.depth using Nat.strongRecOn generalizing schema with
  | ind n ih =>
    intro value place hv hplace
    cases schema with
    | bool b =>
      cases b with
      | true => exact validate_true value place ▸ .pure (holdsOf_one hv)
      | false =>
        rw [validate_false]
        exact .pure (holdsOf_flatMap.2 (List.forall_mem_singleton.2
          (holdsOf_violation hv hs holdsOf_nil hplace)))
    | object keywords =>
      have hbelow : CarriesBelow p keywords := by
        intro child hdepth hchild
        simp only [Value.depth] at hd
        exact ih child.depth (by omega) hchild rfl
      rw [validate_keywords, validateKeywords_eq]
      split
      · exact .pure (holdsOf_absentVerdict hp hplace hs)
      · split
        · exact .after fun _ => .pure holdsOf_nil
        · exact carries_validateTyped hp hplace hs hv hbelow _
        · exact .pure (holdsOf_one hv)
    | _ =>
      rw [validate_eq]
      exact .error _

end JsonSchema
