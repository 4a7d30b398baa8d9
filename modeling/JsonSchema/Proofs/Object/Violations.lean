import JsonSchema.Proofs.Object.Visit
import JsonSchema.Proofs.Verdict

/-!
The violations of an object, in closed form.

Main statement: where a node of type `object` has a verdict on an object, its violations are one
fixed concatenation of lists, each a function of the keywords, the members and the verdicts on the
members, and no check hides or moves what another one reports.
-/

namespace JsonSchema.Validation

open Outcome

/-! ### Additional members -/

/-- What is reported of additional members: nothing where they are taken as they are, all of them
at once where they are refused, else the violations of those that are not falsy. -/
def additionalViolations (keywords members : Entries) (place : Place) : List Violation :=
  match additionalSchema keywords with
  | .bool true => []
  | .bool false =>
    if extras keywords members place = [] then []
    else [⟨.object members, .bool false, .additional (Entries.keys (extras keywords members place)),
      place.schema.keyword "additionalProperties", place.value⟩]
  | _ =>
    (additionalVisits keywords members place).flatMap fun v =>
      if v.value.falsy then [] else v.violations

lemma verdict_additionalVisit_true (place : Place) (e : Value × Value) :
    (additionalVisit place (.bool true) e).verdict = .valid e.2 :=
  Visit.verdict_eq (by simp [additionalVisit])

/-- Members that are taken as they are, as visits of a schema that accepts all. -/
lemma foldl_insert_eq_mergeAll {extra : Entries} (h : ∀ e ∈ extra, e.2.isUndefined = false)
    (place : Place) (part : ObjectPart) :
    extra.foldl (fun done e => done.insert e.1 e.2) part.members =
      (part.mergeAll ((extra.map (additionalVisit place (.bool true))).filter
        (!·.isSuppressed))).members := by
  induction extra generalizing part with
  | nil => rfl
  | cons e rest ih =>
    have hv := verdict_additionalVisit_true place e
    have hs : (additionalVisit place (.bool true) e).isSuppressed = false := by
      simp [Visit.isSuppressed, hv, Verdict.isValid]
    rw [List.map_cons, List.filter_cons_of_pos (by simp [hs]), ObjectPart.mergeAll_cons, hv,
      ← ih fun f hf => h f (by simp [hf])]
    simp [ObjectPart.merge, additionalVisit, h e (by simp)]

lemma isUndefined_of_mem_extras {keywords members : Entries} {place : Place} {e : Value × Value}
    (h : e ∈ extras keywords members place) : e.2.isUndefined = false := by
  have := (List.mem_filter.1 h).2
  simp only [Bool.and_eq_true, Bool.not_eq_true'] at this
  exact this.1

/-- A schema that is a boolean always has an answer. -/
lemma answers_of_bool {v : Visit} {b : Bool} (h : v.schema = .bool b) : v.Answers := by
  unfold Visit.Answers
  rw [h]
  cases b <;> simp

lemma additionalPart_eq {keywords members : Entries} {place : Place} {part : ObjectPart}
    (hs : members.HasClearKeys)
    (hc : part.consumed = (mergedVisits keywords members place).map Visit.key)
    (he : extras keywords members place ≠ []) :
    additionalPart validate keywords members place part =
      match additionalSchema keywords with
      | .bool true => return { part with
          members := (extras keywords members place).foldl (fun done e => done.insert e.1 e.2)
            part.members }
      | .bool false => return part.report (additionalViolations keywords members place)
      | schema => mergeVisits ((extras keywords members place).map (additionalVisit place schema))
          part := by
  unfold additionalPart
  rw [extraMembers_eq hs hc]
  simp only [List.isEmpty_iff, he, if_false, additionalViolations, additionalSchema,
    ← mergeAdditional_eq]
  cases keywords.defined? "additionalProperties" with
  | none => rfl
  | some schema =>
    cases schema with
    | bool b => cases b <;> rfl
    | _ => rfl

lemma additionalPart_eq_ok {keywords members : Entries} {place : Place} {part part' : ObjectPart}
    (hs : members.HasClearKeys)
    (hc : part.consumed = (mergedVisits keywords members place).map Visit.key)
    (h : (additionalPart validate keywords members place part).result = .ok part') :
    (∀ v ∈ additionalVisits keywords members place, v.Answers) ∧
      part'.violations = part.violations ++ additionalViolations keywords members place ∧
      (additionalViolations keywords members place = [] → part'.members =
        (part.mergeAll ((additionalVisits keywords members place).filter
          (!·.isSuppressed))).members) := by
  by_cases he : extras keywords members place = []
  · have hv : additionalVisits keywords members place = [] := by simp [additionalVisits, he]
    have hz : additionalViolations keywords members place = [] := by
      unfold additionalViolations
      split <;> simp [he, hv]
    simp only [additionalPart, extraMembers_eq hs hc, he, List.isEmpty_nil, if_true] at h
    cases h
    simp [hv, hz]
  · rw [additionalPart_eq hs hc he] at h
    have hbool : ∀ b, additionalSchema keywords = .bool b →
        ∀ v ∈ additionalVisits keywords members place, v.Answers := by
      intro b hb v hv
      obtain ⟨e, -, rfl⟩ := List.mem_map.1 hv
      exact answers_of_bool hb
    split at h
    · rename_i hb
      cases h
      refine ⟨hbool _ hb, by simp [additionalViolations, hb], fun _ => ?_⟩
      rw [additionalVisits, hb]
      exact foldl_insert_eq_mergeAll (fun e => isUndefined_of_mem_extras) place part
    · rename_i hb
      cases h
      refine ⟨hbool _ hb, rfl, fun hz => absurd hz ?_⟩
      simp [additionalViolations, hb, he]
    · rename_i hnt hnf
      obtain ⟨ha, rfl⟩ := mergeVisits_eq_ok h
      refine ⟨ha, ?_, fun _ => rfl⟩
      rw [ObjectPart.mergeAll_violations, Visit.flatMap_unsuppressed]
      simp [additionalViolations, additionalVisits]

/-! ### Names -/

/-- The violations of one key as a string. A schema that is an object applies its string checks,
whatever type it declares. -/
def keyViolations (schema : Value) (place : Place) (key : Value) : List Violation :=
  match schema with
  | .object keywords =>
    violationsAt keywords (.string key.text) place
      ((stringReasons keywords (.string key.text) place.schema).toOption.getD [])
  | .bool false => [⟨.string key.text, .bool false, .falseSchema, place.schema, place.value⟩]
  | _ => []

/-- The violations of all keys, each at the place of the object. -/
def namesViolations (keywords members : Entries) (place : Place) : List Violation :=
  match keywords.defined? "propertyNames" with
  | some schema =>
    (Entries.keys members).flatMap (keyViolations schema (place.keyword "propertyNames"))
  | none => []

lemma nameVerdict_eq_ok {schema key : Value} {place : Place} {verdict : Verdict}
    (h : (nameVerdict validate schema key place).result = .ok verdict) :
    verdict.violations = keyViolations schema place key := by
  cases schema with
  | object keywords =>
    obtain ⟨reasons, hr, h⟩ := result_bind_eq_ok.1 h
    cases h
    rw [result_liftM] at hr
    simp [keyViolations, hr, Except.toOption]
  | bool b =>
    cases b <;> simp only [nameVerdict, validate_false, validate_true] at h <;> cases h <;> rfl
  | _ =>
    simp only [nameVerdict, validate_eq] at h
    cases h

lemma nameViolations_eq_ok {schema : Value} {place : Place} {members : Entries}
    {violations : List Violation}
    (h : (nameViolations validate schema place members).result = .ok violations) :
    violations = (Entries.keys members).flatMap (keyViolations schema place) := by
  induction members generalizing violations with
  | nil => cases h; rfl
  | cons e rest ih =>
    obtain ⟨verdict, hv, h⟩ := result_bind_eq_ok.1 h
    obtain ⟨later, hl, h⟩ := result_bind_eq_ok.1 h
    cases h
    rw [nameVerdict_eq_ok hv, ih hl]
    rfl

lemma namesPart_eq_ok {keywords members : Entries} {place : Place} {part part' : ObjectPart}
    (h : (namesPart validate keywords members place part).result = .ok part') :
    part' = part.report (namesViolations keywords members place) := by
  unfold namesPart at h
  unfold namesViolations
  split at h
  · rename_i hd
    cases h
    simp [hd, ObjectPart.report]
  · rename_i schema hd
    obtain ⟨violations, hv, h⟩ := result_bind_eq_ok.1 h
    cases h
    rw [nameViolations_eq_ok hv, hd]

/-! ### All checks of an object -/

/-- All visits that the checks of an object make. -/
def objectVisits (keywords members : Entries) (place : Place) : List Visit :=
  declaredVisits keywords members place ++ patternVisits keywords members place
    ++ additionalVisits keywords members place

/-- The violations of an object: of its type, `const` and `enum`; of the required members; of the
declared members that are not falsy; of all members that match a pattern; of the additional
members; of the names; of the number of members. -/
def objectViolations (keywords members : Entries) (place : Place) : List Violation :=
  let about := violationsAt keywords (.object members) place
  about (guardRefusals keywords .object .json (.object members))
    ++ about (requiredRefusals keywords members)
    ++ ((declaredVisits keywords members place).flatMap fun v =>
      if v.value.falsy then [] else v.violations)
    ++ (patternVisits keywords members place).flatMap Visit.violations
    ++ additionalViolations keywords members place
    ++ namesViolations keywords members place
    ++ about (countRefusals keywords members)

/-- An object without violations has none in its members. -/
lemma violations_of_objectViolations_nil {keywords members : Entries} {place : Place}
    (h : objectViolations keywords members place = []) :
    (∀ v ∈ declaredVisits keywords members place,
      (if v.value.falsy then [] else v.violations) = []) ∧
      (∀ v ∈ patternVisits keywords members place, v.violations = []) ∧
      additionalViolations keywords members place = [] := by
  simp only [objectViolations, List.append_eq_nil_iff, List.flatMap_eq_nil_iff] at h
  exact ⟨h.1.1.1.1.2, h.1.1.1.2, h.1.1.2⟩

/-- The members that an object without violations is completed to. -/
def completedMembers (keywords members : Entries) (place : Place) : Entries :=
  (ObjectPart.empty.mergeAll (mergedVisits keywords members place
    ++ (additionalVisits keywords members place).filter (!·.isSuppressed))).members

lemma violationsAt_append (keywords : Entries) (value : Value) (place : Place)
    (rs ts : List Reason) : violationsAt keywords value place (rs ++ ts) =
      violationsAt keywords value place rs ++ violationsAt keywords value place ts := by
  simp [violationsAt]

section

variable {keywords members : Entries} {place : Place}

/-- What the visits of declared members leave, behind what is reported of required names. -/
def declaredPart (keywords members : Entries) (place : Place) (missing : List Reason) :
    ObjectPart :=
  (ObjectPart.empty.report (violationsAt keywords (.object members) place missing)).mergeAll
    ((declaredVisits keywords members place).filter (!·.isSuppressed))

/-- What the visits of members that match a pattern leave behind those. -/
def mergedPart (keywords members : Entries) (place : Place) (missing : List Reason) : ObjectPart :=
  (declaredPart keywords members place missing).mergeAll (patternVisits keywords members place)

lemma mergedPart_consumed (missing : List Reason) :
    (mergedPart keywords members place missing).consumed =
      (mergedVisits keywords members place).map Visit.key := by
  simp [mergedPart, declaredPart, ObjectPart.mergeAll_consumed, ObjectPart.report,
    ObjectPart.empty, mergedVisits]

/-- The checks of members go through every step, each with the part that the one before leaves. -/
structure MembersRun (keywords members : Entries) (place : Place)
    (missing few many : List Reason) (added named : ObjectPart) : Prop where
  required : requiredReasons keywords members = .ok missing
  properties : HasAnswer (keywords.children "properties")
  declared : (mergeVisits (declaredVisits keywords members place) (ObjectPart.empty.report
    (violationsAt keywords (.object members) place missing))).result =
      .ok (declaredPart keywords members place missing)
  patterns : HasAnswer (keywords.children "patternProperties")
  matching : (mergePatterns validate members place (childrenOf keywords "patternProperties")
    (declaredPart keywords members place missing)).result =
      .ok (mergedPart keywords members place missing)
  additional : (additionalPart validate keywords members place
    (mergedPart keywords members place missing)).result = .ok added
  names : (namesPart validate keywords members place added).result = .ok named
  fewer : minCountReasons keywords members = .ok few
  more : maxCountReasons keywords members = .ok many

/-- What the checks of members give goes through every step. -/
lemma exists_membersRun {part : ObjectPart}
    (h : (membersPart validate keywords members place).result = .ok part) :
    ∃ missing few many added named, MembersRun keywords members place missing few many added named ∧
      part = named.report (violationsAt keywords (.object members) place few
        ++ violationsAt keywords (.object members) place many) := by
  unfold membersPart at h
  obtain ⟨missing, hrequired, h⟩ := result_bind_eq_ok.1 h
  obtain ⟨properties, hp, h⟩ := result_bind_eq_ok.1 h
  obtain ⟨declared, hdeclared, h⟩ := result_bind_eq_ok.1 h
  obtain ⟨patterns, hq, h⟩ := result_bind_eq_ok.1 h
  obtain ⟨merged, hmatching, h⟩ := result_bind_eq_ok.1 h
  obtain ⟨added, hadditional, h⟩ := result_bind_eq_ok.1 h
  obtain ⟨named, hnames, h⟩ := result_bind_eq_ok.1 h
  obtain ⟨few, hfewer, h⟩ := result_bind_eq_ok.1 h
  obtain ⟨many, hmore, h⟩ := result_bind_eq_ok.1 h
  cases h
  rw [result_liftM] at hrequired hp hq hfewer hmore
  obtain rfl := childrenOf_eq hp
  obtain rfl := childrenOf_eq hq
  rw [mergeProperties_eq] at hdeclared
  obtain ⟨-, rfl⟩ := mergeVisits_eq_ok hdeclared
  obtain ⟨-, rfl⟩ := mergePatterns_eq_ok hmatching
  exact ⟨missing, few, many, added, named, ⟨hrequired, ⟨_, hp⟩, hdeclared, ⟨_, hq⟩, hmatching,
    hadditional, hnames, hfewer, hmore⟩, rfl⟩

lemma membersPart_eq_ok {part : ObjectPart} (hs : members.HasClearKeys)
    (h : (membersPart validate keywords members place).result = .ok part) :
    (∀ v ∈ objectVisits keywords members place, v.Answers) ∧
      violationsAt keywords (.object members) place
          (guardRefusals keywords .object .json (.object members)) ++ part.violations =
        objectViolations keywords members place ∧
      (additionalViolations keywords members place = [] →
        part.members = completedMembers keywords members place) := by
  obtain ⟨missing, few, many, added, named, run, rfl⟩ := exists_membersRun h
  obtain ⟨hadded, hviolations, hmembers⟩ :=
    additionalPart_eq_ok hs (mergedPart_consumed missing) run.additional
  obtain rfl := namesPart_eq_ok run.names
  refine ⟨fun v hv => ?_, ?_, fun hz => ?_⟩
  · simp only [objectVisits, List.mem_append] at hv
    rcases hv with (hv | hv) | hv
    · exact (mergeVisits_eq_ok run.declared).1 v hv
    · exact (mergePatterns_eq_ok run.matching).1 v hv
    · exact hadded v hv
  · simp only [ObjectPart.report, hviolations, mergedPart, declaredPart,
      ObjectPart.mergeAll_violations, List.append_assoc, Visit.flatMap_unsuppressed,
      ← violationsAt_append, countReasons_eq_ok run.fewer run.more,
      requiredReasons_eq_ok run.required]
    simp [objectViolations, ObjectPart.empty]
  · show added.members = _
    rw [hmembers hz, completedMembers, mergedVisits, mergedPart, declaredPart,
      ObjectPart.mergeAll_append, ObjectPart.mergeAll_append]
    simp only [← ObjectPart.mergeAll_append, ObjectPart.mergeAll_report_members]

end

/-! ### The verdict on an object -/

lemma validate_object {keywords : Entries} (h : keywords.named? "type" = some (.string "object"))
    {value : Value} (hv : value.isUndefined = false) (place : Place) :
    validate (.object keywords) value place = validateObject validate keywords value place := by
  rw [validate_keywords]
  unfold validateKeywords
  rw [if_neg (by simp [hv]), h]
  have ht : (some (Value.string "object")).bind JsonType.ofValue? = some .object :=
    JsonType.ofName?_name .object
  simp only [ht]
  rfl

/-- Only objects are accepted as objects. -/
lemma object_of_valid {keywords : Entries}
    (ht : keywords.named? "type" = some (.string "object")) {value w : Value} {place : Place}
    (hv : value.isUndefined = false)
    (h : (validate (.object keywords) value place).result = .ok (.valid w)) :
    ∃ members : Entries, value = .object members := by
  rw [validate_object ht hv] at h
  obtain ⟨guard, hg, h⟩ := result_bind_eq_ok.1 h
  rw [result_liftM] at hg
  cases value with
  | object members => exact ⟨members, rfl⟩
  | _ =>
    obtain ⟨hguard, -⟩ := verdictOf_eq_valid.1 (Except.ok.inj h)
    simp [guardReasons_eq_ok hg, violationsAt, guardRefusals, typeReasons, Value.mismatch?,
      Value.kindName, JsonType.name] at hguard

/-- **The verdict on an object**: its violations, or if there are none the members that the visits
leave. -/
theorem validate_object_of_clear {keywords members : Entries} {place : Place} {verdict : Verdict}
    (ht : keywords.named? "type" = some (.string "object")) (hs : members.HasClearKeys)
    (h : (validate (.object keywords) (.object members) place).result = .ok verdict) :
    (∀ v ∈ objectVisits keywords members place, v.Answers) ∧
      verdict = verdictOf (.object (completedMembers keywords members place))
        (objectViolations keywords members place) := by
  rw [validate_object ht rfl] at h
  obtain ⟨guard, hg, h⟩ := result_bind_eq_ok.1 h
  obtain ⟨part, hp, h⟩ := result_bind_eq_ok.1 h
  cases h
  rw [result_liftM] at hg
  obtain ⟨ha, hviol, hmem⟩ := membersPart_eq_ok hs hp
  refine ⟨ha, ?_⟩
  rw [guardReasons_eq_ok hg, hviol]
  cases hz : objectViolations keywords members place with
  | nil =>
    rw [hmem (violations_of_objectViolations_nil hz).2.2]
  | cons v rest => rfl

lemma validate_object_eq_ok {keywords members : Entries} {place : Place} {verdict : Verdict}
    (ht : keywords.named? "type" = some (.string "object")) (hs : members.HasStringKeys)
    (h : (validate (.object keywords) (.object members) place).result = .ok verdict) :
    (∀ v ∈ objectVisits keywords members place, v.Answers) ∧
      verdict = verdictOf (.object (completedMembers keywords members place))
        (objectViolations keywords members place) :=
  validate_object_of_clear ht hs.clear h

/-- **The violations of an object**, in closed form: all of them, each in its place, and none
else. All members that are put to a schema have an answer there. -/
theorem violations_of_object {keywords members : Entries} {place : Place} {verdict : Verdict}
    (ht : keywords.named? "type" = some (.string "object")) (hs : members.HasStringKeys)
    (h : (validate (.object keywords) (.object members) place).result = .ok verdict) :
    verdict.violations = objectViolations keywords members place ∧
      (verdict.isValid = true ↔ objectViolations keywords members place = []) ∧
      ∀ v ∈ objectVisits keywords members place, v.Answers := by
  obtain ⟨ha, rfl⟩ := validate_object_eq_ok ht hs h
  refine ⟨violations_verdictOf _ _, ?_, ha⟩
  rw [isValid_verdictOf, List.isEmpty_iff]

def strictKeywords : Entries :=
  [(.string "type", .string "object"), (.string "required", .list [.string "z"]),
    (.string "properties", .object [(.string "a", .object [(.string "type", .string "string")]),
      (.string "b", .object [(.string "type", .string "string")])]),
    (.string "patternProperties", .object [(.string "^p", .bool false)]),
    (.string "additionalProperties", .bool false),
    (.string "propertyNames", .object [(.string "maxLength", .int 1)]),
    (.string "maxProperties", .int 1)]

def strayMembers : Entries :=
  [(.string "a", .int 5), (.string "b", .int 0), (.string "pp", .null)]

theorem violations_of_object_strict :
    strictKeywords.named? "type" = some (.string "object") ∧ strayMembers.HasStringKeys ∧
      ∃ verdict,
        (validate (.object strictKeywords) (.object strayMembers) .start).result = .ok verdict ∧
        verdict.violations = objectViolations strictKeywords strayMembers .start ∧
        verdict.violations.map
          (fun v => (v.reason.message, v.schemaLocation.text, v.valuePath.text)) =
          ([("Value should have all required properties but is missing [z]", "#", "#"),
            ("Value should have been a string but was of type number", "#/properties/a", "#/a"),
            ("Nothing validates against a false schema", "#/patternProperties/^p", "#/pp"),
            ("Should have no additional properties, found [b]", "#/additionalProperties", "#"),
            ("Value should have a maximum length of 1 character(s)", "#/propertyNames", "#"),
            ("Object should have a maximum of 1 properties", "#", "#")] :
            List (Text × Text × Text)) := by
  have ht : strictKeywords.named? "type" = some (.string "object") := by simp [strictKeywords]
  obtain ⟨verdict, h⟩ := exists_of_isOk
    (show (validate (.object strictKeywords) (.object strayMembers) .start).result.isOk = true by
      decide +kernel)
  have hv := violations_of_object ht (by decide) h
  refine ⟨ht, by decide, verdict, h, hv.1, ?_⟩
  rw [hv.1]
  decide +kernel

end JsonSchema.Validation
