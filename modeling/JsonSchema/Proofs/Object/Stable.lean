import JsonSchema.Proofs.Object.Accepted
import JsonSchema.Proofs.Object.Settled
import JsonSchema.Proofs.Placement
import JsonSchema.Proofs.SameKey

/-!
Objects that are completed once and for all.

A plain record declares properties, and takes all other members as they are or refuses them
altogether. What it makes of an object are the completed declared members, in the order of the
declarations, and then the additional ones. Main statement: put to the same node again, these
members stay as they are, provided that every declared member does.
-/

namespace JsonSchema

open Validation Visit

/-- Keywords that a node does not have. -/
def Entries.Lacks (keywords : Entries) (names : List String) : Prop :=
  ∀ name ∈ names, keywords.named? name = none

instance (keywords : Entries) (names : List String) : Decidable (keywords.Lacks names) :=
  inferInstanceAs (Decidable (∀ name ∈ names, keywords.named? name = none))

namespace Entries

variable {keywords : Entries}

lemma Lacks.mono {names names' : List String} (h : keywords.Lacks names) (hs : names' ⊆ names) :
    keywords.Lacks names' :=
  fun name hn => h name (hs hn)

variable {name : String} (h : keywords.named? name = none)

include h

lemma defined?_of_absent : keywords.defined? name = none := by
  rw [defined?, h]
  rfl

lemma given?_of_absent : keywords.given? name = none := by
  rw [given?, h]
  rfl

lemma children_of_absent : keywords.children name = .ok [] := by
  unfold children
  rw [h]

end Entries

section

variable {keywords : Entries} (members : Entries)

lemma requiredReasons_of_absent (h : keywords.named? "required" = none) :
    requiredReasons keywords members = .ok [] := by
  unfold requiredReasons
  rw [h]
  rfl

lemma minCountReasons_of_absent (h : keywords.named? "minProperties" = none) :
    minCountReasons keywords members = .ok [] := by
  unfold minCountReasons
  rw [h]
  rfl

lemma maxCountReasons_of_absent (h : keywords.named? "maxProperties" = none) :
    maxCountReasons keywords members = .ok [] := by
  unfold maxCountReasons whenGiven
  rw [Entries.given?_of_absent h]

/-- Without literals the type alone is checked. -/
lemma guardReasons_of_lacks (h : keywords.Lacks ["const", "enum"]) (expected : JsonType)
    (form : LiteralForm) (value : Value) :
    guardReasons keywords expected form value = .ok (typeReasons expected value) := by
  have hconst : constReasons keywords form value = .ok [] := by
    simp [constReasons, Entries.defined?_of_absent (h "const" (by simp))]
  have henum : enumReasons keywords form value = .ok [] := by
    simp [enumReasons, whenGiven, Entries.given?_of_absent (h "enum" (by simp))]
  simp [guardReasons, hconst, henum, bind, Except.bind, pure, Except.pure]

lemma guardReasons_eq_nil (h : keywords.Lacks ["const", "enum"]) {expected : JsonType}
    {value : Value} (hv : value.kindName = expected.name) (form : LiteralForm) :
    guardReasons keywords expected form value = .ok [] := by
  simp [guardReasons_of_lacks h, typeReasons, Value.mismatch?, hv]

variable {members} {place : Place} (h : keywords.Lacks ["const", "enum", "patternProperties",
  "propertyNames", "minProperties", "maxProperties"])

include h

/-- Without further keywords nothing is reported but of required, declared and additional
members. -/
lemma objectViolations_of_lacks : objectViolations keywords members place =
    violationsAt keywords (.object members) place (requiredRefusals keywords members) ++
      ((declaredVisits keywords members place).flatMap fun v =>
        if v.value.falsy then [] else v.violations) ++
      additionalViolations keywords members place := by
  have hkind : (Value.object members).kindName = JsonType.object.name := rfl
  have hguard := guardReasons_eq_ok (guardReasons_eq_nil (h.mono (by simp)) hkind .json)
  have hcount := countReasons_eq_ok (minCountReasons_of_absent members (h _ (by simp)))
    (maxCountReasons_of_absent members (h _ (by simp)))
  have hpatterns := childrenOf_eq (Entries.children_of_absent (h "patternProperties" (by simp)))
  have hnames := Entries.defined?_of_absent (h "propertyNames" (by simp))
  simp [objectViolations, ← hguard, ← hcount, patternVisits, hpatterns, namesViolations, hnames,
    violationsAt]

/-- Nor can anything else fail. -/
lemma objectSettles_of_lacks : ObjectSettles keywords members place ↔
    HasAnswer (requiredReasons keywords members) ∧ HasAnswer (keywords.children "properties") ∧
      (∀ v ∈ declaredVisits keywords members place, v.Settles) ∧
      AdditionalSettles keywords members place := by
  have hpatterns := Entries.children_of_absent (h "patternProperties" (by simp))
  have hnames := Entries.defined?_of_absent (h "propertyNames" (by simp))
  constructor
  · exact fun hs => ⟨hs.required, hs.properties, hs.declared, hs.additional⟩
  · rintro ⟨hrequired, hproperties, hdeclared, hadditional⟩
    exact {
      guard := ⟨_, guardReasons_eq_nil (h.mono (by simp)) rfl .json⟩
      required := hrequired
      properties := hproperties
      declared := hdeclared
      patterns := ⟨_, hpatterns⟩
      matching := by simp [childrenOf_eq hpatterns]
      additional := hadditional
      names := by simp [NamesSettle, hnames]
      fewer := ⟨_, minCountReasons_of_absent members (h _ (by simp))⟩
      more := ⟨_, maxCountReasons_of_absent members (h _ (by simp))⟩ }

end

/-- A node of type object with nothing but declared and required members, and a boolean, if
anything, for all others. -/
structure PlainRecord (keywords : Entries) : Prop where
  type : keywords.named? "type" = some (.string "object")
  lacks : keywords.Lacks ["const", "enum", "patternProperties", "propertyNames", "minProperties",
    "maxProperties"]
  additional : (keywords.defined? "additionalProperties").all Value.isBool = true

namespace PlainRecord

variable {keywords : Entries} (h : PlainRecord keywords) (members : Entries) (place : Place)

include h

lemma childrenOf_patterns : keywords.children "patternProperties" = .ok [] :=
  Entries.children_of_absent (h.lacks _ (by simp))

lemma patternVisits_eq : patternVisits keywords members place = [] := by
  simp [patternVisits, childrenOf_eq h.childrenOf_patterns]

lemma isExtra_eq (key : Value) : isExtra keywords members place key =
    List.all (childrenOf keywords "properties") fun d =>
      !Value.same d.1 key || (declaredVisit members place d).isSuppressed := by
  rw [isExtra, childrenOf_eq h.childrenOf_patterns, declaredVisits, List.all_map]
  rfl

/-- A key that is not extra is declared, and its member is not passed over. -/
lemma declared_of_not_isExtra {key : Value}
    (hx : isExtra keywords members place key = false) :
    ∃ d ∈ childrenOf keywords "properties", Value.same d.1 key = true ∧
      (declaredVisit members place d).isSuppressed = false := by
  rw [h.isExtra_eq, List.all_eq_false] at hx
  simpa using hx

lemma additionalSchema_eq : ∃ b, additionalSchema keywords = .bool b := by
  unfold additionalSchema
  cases hd : keywords.defined? "additionalProperties" with
  | none => exact ⟨true, rfl⟩
  | some schema =>
    have hb := h.additional
    rw [hd] at hb
    cases schema with
    | bool b => exact ⟨b, rfl⟩
    | _ => cases hb

/-- The violations of a plain record: missing members, and those of the declared and additional
ones. -/
lemma objectViolations_eq_nil : objectViolations keywords members place = [] ↔
    requiredRefusals keywords members = [] ∧
    (∀ d ∈ childrenOf keywords "properties",
      (if (declaredVisit members place d).value.falsy then []
        else (declaredVisit members place d).violations) = []) ∧
    additionalViolations keywords members place = [] := by
  rw [objectViolations_of_lacks h.lacks]
  simp only [List.append_eq_nil_iff, List.flatMap_eq_nil_iff, declaredVisits, List.forall_mem_map]
  simp [violationsAt, and_assoc]

end PlainRecord

/-- An object that a plain record accepts. -/
structure RecordAccepted (keywords members : Entries) (place : Place) : Prop where
  record : PlainRecord keywords
  names : (childrenOf keywords "properties").IsKeyed
  noUnion : ∀ e ∈ childrenOf keywords "properties", Value.isUnion e.2 = false
  keyed : members.IsKeyed
  settles : ObjectSettles keywords members place
  noViolations : objectViolations keywords members place = []

/-- What a plain record makes of an object that it accepts. -/
def keptMembers (keywords members : Entries) (place : Place) : Entries :=
  List.append (filled (declaredVisits keywords members place)) (extras keywords members place)

/-- What declared members are completed to, their schemas accept as it is. -/
def DeclaredStay (keywords members : Entries) (place : Place) : Prop :=
  ∀ d ∈ childrenOf keywords "properties",
    (declaredVisit members place d).result.isUndefined = false →
      Stays d.2 (declaredVisit members place d).result

namespace RecordAccepted

variable {keywords members : Entries} {place : Place} (h : RecordAccepted keywords members place)

include h

/-! ### The first run -/

lemma noRefusals : requiredRefusals keywords members = [] ∧
    (∀ d ∈ childrenOf keywords "properties",
      (if (declaredVisit members place d).value.falsy then []
        else (declaredVisit members place d).violations) = []) ∧
    additionalViolations keywords members place = [] :=
  (h.record.objectViolations_eq_nil members place).1 h.noViolations

lemma answers {e : Value × Value} (he : e ∈ childrenOf keywords "properties") :
    (declaredVisit members place e).Answers :=
  (h.settles.declared _ (List.mem_map_of_mem he)).1

lemma isValid_of_unsuppressed {e : Value × Value} (he : e ∈ childrenOf keywords "properties")
    (hs : (declaredVisit members place e).isSuppressed = false) :
    (declaredVisit members place e).verdict.isValid = true :=
  Validation.isValid_of_unsuppressed (h.answers he) (h.noUnion e he) (h.noRefusals.2.1 e he) hs

/-- Additional members are taken as they are. -/
lemma filled_additional :
    filled (additionalVisits keywords members place) = extras keywords members place := by
  obtain ⟨b, hb⟩ := h.record.additionalSchema_eq
  have hn := h.noRefusals.2.2
  unfold additionalVisits
  rw [hb]
  cases b with
  | true =>
    have hresult : ∀ e : Value × Value, (additionalVisit place (.bool true) e).result = e.2 :=
      fun e => by simp [Visit.result, verdict_additionalVisit_true]
    rw [filled, List.filter_map, List.map_map, List.filter_eq_self.2]
    · refine (List.map_congr_left fun e _ => ?_).trans (List.map_id _)
      show (e.1, (additionalVisit place (.bool true) e).result) = e
      rw [hresult]
    · intro e he
      simp [hresult, isUndefined_of_mem_extras he]
  | false =>
    have he : extras keywords members place = [] := by
      simpa [additionalViolations, hb] using hn
    rw [he]
    rfl

/-- Declared members that are not passed over and additional members have different keys. -/
lemma distinct_visits : ((declaredVisits keywords members place).filter (!·.isSuppressed) ++
    (additionalVisits keywords members place).filter (!·.isSuppressed)).Pairwise
      fun u v => Value.same u.key v.key = false := by
  refine List.pairwise_append.2 ⟨?_, ?_, ?_⟩
  · exact List.Pairwise.filter _ (List.pairwise_map.2 h.names.distinctKeys)
  · refine List.Pairwise.filter _ (List.pairwise_map.2 (List.Pairwise.filter _ ?_))
    exact h.keyed.distinctKeys
  · intro u hu v hv
    obtain ⟨hu, hs⟩ := List.mem_filter.1 hu
    obtain ⟨e, he, rfl⟩ := List.mem_map.1 (List.mem_filter.1 hv).1
    have hx := (mem_extras.1 he).2.2
    simp only [isExtra, Bool.and_eq_true, List.all_eq_true] at hx
    simpa [(by simpa using hs : u.isSuppressed = false), additionalVisit] using hx.2 u hu

lemma keptMembers_eq : keptMembers keywords members place =
    filled ((declaredVisits keywords members place).filter (!·.isSuppressed) ++
      (additionalVisits keywords members place).filter (!·.isSuppressed)) := by
  rw [filled_append, filled_unsuppressed, filled_unsuppressed, h.filled_additional]
  rfl

lemma completedMembers_eq :
    completedMembers keywords members place = keptMembers keywords members place := by
  rw [completedMembers, mergedVisits, h.record.patternVisits_eq, List.append_nil,
    ObjectPart.mergeAll_members_of_distinct h.distinct_visits fun v _ => rfl, h.keptMembers_eq]
  rfl

omit h in
lemma mem_keptMembers {e : Value × Value} : e ∈ keptMembers keywords members place ↔
    (∃ d ∈ childrenOf keywords "properties",
      (declaredVisit members place d).result.isUndefined = false ∧
        (d.1, (declaredVisit members place d).result) = e) ∨
      e ∈ extras keywords members place := by
  simp [keptMembers, filled, declaredVisits, declaredVisit, and_assoc]

lemma keyed_keptMembers : (keptMembers keywords members place).IsKeyed := by
  refine ⟨fun e he => ?_, h.keptMembers_eq ▸ distinctKeys_filled h.distinct_visits⟩
  rcases mem_keptMembers.1 he with ⟨d, hd, -, rfl⟩ | he
  · exact h.names.keys d hd
  · exact h.keyed.keys e (mem_extras.1 he).1

/-- A declared member that is completed to something has it as its value. -/
lemma get_of_result {d : Value × Value} (hd : d ∈ childrenOf keywords "properties")
    (hr : (declaredVisit members place d).result.isUndefined = false) :
    (keptMembers keywords members place).get d.1 = (declaredVisit members place d).result :=
  Entries.get_of_mem h.keyed_keptMembers.distinctKeys (mem_keptMembers.2 (.inl ⟨d, hd, hr, rfl⟩))

/-- A declared member that is there but comes to nothing is passed over, and kept as an additional
one. -/
lemma mem_extras_of_result {d e : Value × Value} (hd : d ∈ childrenOf keywords "properties")
    (hr : (declaredVisit members place d).result.isUndefined = true) (he : e ∈ members)
    (hs : Value.same e.1 d.1 = true) (hdefined : e.2.isUndefined = false) :
    e ∈ extras keywords members place := by
  have hvalue : (declaredVisit members place d).value = e.2 :=
    h.keyed.get_of_same he (h.names.keys d hd) hs
  have hsuppressed : (declaredVisit members place d).isSuppressed = true := by
    by_contra hn
    have hvalid := h.isValid_of_unsuppressed hd (by simpa using hn)
    simp [isUndefined_result (h.answers hd) (hvalue ▸ hdefined) hvalid] at hr
  refine mem_extras.2 ⟨he, hdefined, ?_⟩
  by_contra hx
  obtain ⟨c, hc, hsame, hcs⟩ := h.record.declared_of_not_isExtra _ _ (by simpa using hx)
  obtain rfl := h.names.eq_of_same hc hd
    (Value.same_trans (h.names.keys c hc) (h.keyed.keys e he) hsame hs)
  simp [hsuppressed] at hcs

/-- A declared member that comes to nothing is as it was. -/
lemma get_of_no_result {d : Value × Value} (hd : d ∈ childrenOf keywords "properties")
    (hr : (declaredVisit members place d).result.isUndefined = true) :
    (keptMembers keywords members place).get d.1 = members.get d.1 := by
  have hkey := h.names.keys d hd
  cases hv : (members.get d.1).isUndefined with
  | false =>
    obtain ⟨k, hm, hs⟩ := Entries.mem_of_get hv
    have he := h.mem_extras_of_result hd hr hm hs hv
    exact h.keyed_keptMembers.get_of_same (mem_keptMembers.2 (.inr he)) hkey hs
  | true =>
    -- An entry of the result under this name would come from the name itself, or from a member.
    have hundefined : ((keptMembers keywords members place).get d.1).isUndefined = true := by
      by_contra hn
      obtain ⟨k, hm, hs⟩ := Entries.mem_of_get (by simpa using hn)
      rcases mem_keptMembers.1 hm with ⟨c, hc, hcr, heq⟩ | he
      · obtain rfl : c.1 = k := congrArg (·.1) heq
        obtain rfl := h.names.eq_of_same hc hd hs
        simp [hr] at hcr
      · have hget := h.keyed.get_of_same (mem_extras.1 he).1 hkey hs
        rw [hget] at hv
        simp [hv] at hn
    rw [Value.eq_undefined hundefined, Value.eq_undefined hv]

/-! ### The second run -/

/-- A declared member that comes to nothing is put to its schema again as it was. -/
lemma second_visit_of_no_result {d : Value × Value} (hd : d ∈ childrenOf keywords "properties")
    (hr : (declaredVisit members place d).result.isUndefined = true) :
    declaredVisit (keptMembers keywords members place) place d =
      declaredVisit members place d := by
  rw [declaredVisit, h.get_of_no_result hd hr]
  rfl

variable (hstay : DeclaredStay keywords members place)

include hstay

lemma second_answer {d : Value × Value} (hd : d ∈ childrenOf keywords "properties")
    (hr : (declaredVisit members place d).result.isUndefined = false) :
    (validate d.2 ((keptMembers keywords members place).get d.1)
      (place.property "properties" d.1)).result =
        .ok (.valid (declaredVisit members place d).result) := by
  rw [h.get_of_result hd hr]
  exact hstay d hd hr _

lemma second_verdict {d : Value × Value} (hd : d ∈ childrenOf keywords "properties")
    (hr : (declaredVisit members place d).result.isUndefined = false) :
    (declaredVisit (keptMembers keywords members place) place d).verdict =
      .valid (declaredVisit members place d).result :=
  Visit.verdict_eq (h.second_answer hstay hd hr)

lemma second_result {d : Value × Value} (hd : d ∈ childrenOf keywords "properties") :
    (declaredVisit (keptMembers keywords members place) place d).result =
      (declaredVisit members place d).result := by
  cases hr : (declaredVisit members place d).result.isUndefined with
  | true => rw [h.second_visit_of_no_result hd hr]
  | false => rw [Visit.result, h.second_verdict hstay hd hr]

lemma second_isSuppressed {d : Value × Value} (hd : d ∈ childrenOf keywords "properties") :
    (declaredVisit (keptMembers keywords members place) place d).isSuppressed =
      (declaredVisit members place d).isSuppressed := by
  cases hr : (declaredVisit members place d).result.isUndefined with
  | true => rw [h.second_visit_of_no_result hd hr]
  | false =>
    rw [isSuppressed_of_result hr, isSuppressed_of_result]
    rw [h.second_result hstay hd, hr]

lemma second_settles {d : Value × Value} (hd : d ∈ childrenOf keywords "properties") :
    (declaredVisit (keptMembers keywords members place) place d).Settles := by
  cases hr : (declaredVisit members place d).result.isUndefined with
  | true =>
    rw [h.second_visit_of_no_result hd hr]
    exact h.settles.declared _ (List.mem_map_of_mem hd)
  | false =>
    refine ⟨⟨_, h.second_answer hstay hd hr⟩, .inl ?_⟩
    rw [h.second_verdict hstay hd hr]
    rfl

lemma second_violations {d : Value × Value} (hd : d ∈ childrenOf keywords "properties") :
    (if (declaredVisit (keptMembers keywords members place) place d).value.falsy then []
      else (declaredVisit (keptMembers keywords members place) place d).violations) = [] := by
  cases hr : (declaredVisit members place d).result.isUndefined with
  | true =>
    rw [h.second_visit_of_no_result hd hr]
    exact h.noRefusals.2.1 d hd
  | false => simp [Visit.violations, h.second_verdict hstay hd hr, Verdict.violations]

/-- The declared members are completed to what they were. -/
lemma second_filled :
    filled (declaredVisits keywords (keptMembers keywords members place) place) =
      filled (declaredVisits keywords members place) :=
  filled_congr fun _ hd => ⟨rfl, h.second_result hstay hd⟩

lemma second_isExtra (key : Value) :
    isExtra keywords (keptMembers keywords members place) place key =
      isExtra keywords members place key := by
  rw [h.record.isExtra_eq, h.record.isExtra_eq, Bool.eq_iff_iff, List.all_eq_true,
    List.all_eq_true]
  refine forall₂_congr fun d hd => ?_
  rw [h.second_isSuppressed hstay hd]

/-- No declared member has become an additional one, and no additional one has got lost. -/
lemma second_extras :
    extras keywords (keptMembers keywords members place) place =
      extras keywords members place := by
  have hdeclared : List.filter (fun e => !e.2.isUndefined && isExtra keywords members place e.1)
      (filled (declaredVisits keywords members place)) = [] := by
    refine List.filter_eq_nil_iff.2 fun e he hx => ?_
    obtain ⟨v, hv, rfl⟩ := List.mem_map.1 he
    obtain ⟨hv, hr⟩ := List.mem_filter.1 hv
    obtain ⟨d, hd, rfl⟩ := List.mem_map.1 hv
    have hs := isSuppressed_of_result (by simpa using hr)
    rw [h.record.isExtra_eq, Bool.and_eq_true, List.all_eq_true] at hx
    have := hx.2 d hd
    simp [declaredVisit, Value.same_self] at this hs
    simp [hs] at this
  have hkept : List.filter (fun e => !e.2.isUndefined && isExtra keywords members place e.1)
      (extras keywords members place) = extras keywords members place :=
    List.filter_eq_self.2 fun e he => (List.mem_filter.1 he).2
  unfold extras
  simp only [h.second_isExtra hstay]
  rw [keptMembers]
  exact (List.filter_append ..).trans (by rw [hdeclared, hkept]; rfl)

lemma second_keptMembers :
    keptMembers keywords (keptMembers keywords members place) place =
      keptMembers keywords members place := by
  rw [keptMembers, h.second_filled hstay, h.second_extras hstay]
  rfl

omit hstay in
/-- A name that has a defined member still has one. -/
lemma hasDefined_keptMembers {name : Value} (hn : hasDefined members name = true) :
    hasDefined (keptMembers keywords members place) name = true := by
  obtain ⟨e, he, hsame⟩ := List.any_eq_true.1 hn
  simp only [Bool.and_eq_true, Bool.not_eq_true'] at hsame
  obtain ⟨hdefined, hsame⟩ := hsame
  have hfound : ∀ f ∈ keptMembers keywords members place, f.2.isUndefined = false →
      Value.same f.1 name = true → hasDefined (keptMembers keywords members place) name = true :=
    fun f hf hu hs => List.any_eq_true.2 ⟨f, hf, by simp [hu, hs]⟩
  cases hx : isExtra keywords members place e.1 with
  | true =>
    have hmem := mem_extras.2 ⟨he, hdefined, hx⟩
    exact hfound e (mem_keptMembers.2 (.inr hmem)) hdefined hsame
  | false =>
    obtain ⟨d, hd, hdsame, hs⟩ := h.record.declared_of_not_isExtra _ _ hx
    have hkey := h.names.keys d hd
    have hvalue : (declaredVisit members place d).value = e.2 :=
      h.keyed.get_of_same he hkey (Value.same_symm hkey hdsame)
    have hr := isUndefined_result (h.answers hd) (hvalue ▸ hdefined)
      (h.isValid_of_unsuppressed hd hs)
    exact hfound _ (mem_keptMembers.2 (.inl ⟨d, hd, hr, rfl⟩)) hr
      (Value.same_trans hkey (h.keyed.keys e he) hdsame hsame)

omit hstay in
/-- Nothing that is required gets lost. -/
lemma requiredReasons_keptMembers :
    requiredReasons keywords (keptMembers keywords members place) = .ok [] := by
  obtain ⟨reasons, hr⟩ := h.settles.required
  obtain rfl : reasons = [] := (requiredReasons_eq_ok hr).trans h.noRefusals.1
  unfold requiredReasons at hr ⊢
  cases hg : (keywords.named? "required").filter Value.isTruthy with
  | none => rfl
  | some names =>
    simp only [hg] at hr ⊢
    obtain ⟨listed, hl, hr⟩ := except_bind_eq_ok.1 hr
    refine except_bind_eq_ok.2 ⟨listed, hl, missingReasons_eq_nil.2 fun n hn => ?_⟩
    obtain ⟨hk, hd⟩ := missingReasons_eq_nil.1 hr n hn
    exact ⟨hk, h.hasDefined_keptMembers hd⟩

lemma second_objectSettles :
    ObjectSettles keywords (keptMembers keywords members place) place := by
  refine (objectSettles_of_lacks h.record.lacks).2
    ⟨⟨_, h.requiredReasons_keptMembers⟩, h.settles.properties, fun v hv => ?_, ?_⟩
  · obtain ⟨d, hd, rfl⟩ := List.mem_map.1 hv
    exact h.second_settles hstay hd
  · obtain ⟨b, hb⟩ := h.record.additionalSchema_eq
    cases b with
    | false => exact .inl hb
    | true => exact additionalSettles_of_true hb

lemma second_objectViolations :
    objectViolations keywords (keptMembers keywords members place) place = [] := by
  refine (h.record.objectViolations_eq_nil _ place).2
    ⟨(requiredReasons_eq_ok h.requiredReasons_keptMembers).symm,
      fun d hd => h.second_violations hstay hd, ?_⟩
  have hn := h.noRefusals.2.2
  obtain ⟨b, hb⟩ := h.record.additionalSchema_eq
  cases b with
  | true => simp [additionalViolations, hb]
  | false => simpa [additionalViolations, hb, h.second_extras hstay] using hn

/-- What a plain record makes of an object, it accepts. -/
lemma keptMembers_accepted :
    RecordAccepted keywords (keptMembers keywords members place) place :=
  ⟨h.record, h.names, h.noUnion, h.keyed_keptMembers, h.second_objectSettles hstay,
    h.second_objectViolations hstay⟩

omit hstay in
/-- The verdict on an object that is accepted. -/
lemma validate_eq_kept : (validate (.object keywords) (.object members) place).result =
    .ok (.valid (.object (keptMembers keywords members place))) := by
  obtain ⟨verdict, hv⟩ := (hasAnswer_validate_object h.record.type h.keyed.clear).2 h.settles
  rw [hv, (validate_object_of_clear h.record.type h.keyed.clear hv).2, h.noViolations,
    h.completedMembers_eq]
  rfl

/-- **Completed once and for all**: put to the node again, the completed object stays as it is. -/
theorem validate_keptMembers :
    (validate (.object keywords) (.object (keptMembers keywords members place)) place).result =
      .ok (.valid (.object (keptMembers keywords members place))) := by
  rw [(h.keptMembers_accepted hstay).validate_eq_kept, h.second_keptMembers hstay]

end RecordAccepted

end JsonSchema
