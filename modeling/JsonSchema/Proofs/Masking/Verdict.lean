import JsonSchema.Proofs.Masking.Checks
import JsonSchema.Proofs.Object.Violations

/-!
No check masks another.

Main statement: where a node that declares one type has a verdict with one keyword more, it has one
without it, its violations are among those with the keyword, in the same order, and all further ones
are about the value as a whole at the place of the node.

The checks of a node run one after another on what was reported so far. Each step keeps the relation
between the two runs, one lemma for each function; only the steps that read the keyword add to it.
-/

namespace JsonSchema

/-- What a violation tells, apart from the schema that refused the value. -/
structure Finding where
  value : Value
  reason : Reason
  schemaLocation : Location
  valuePath : Location

def Violation.finding (v : Violation) : Finding :=
  ⟨v.value, v.reason, v.schemaLocation, v.valuePath⟩

def Verdict.findings (verdict : Verdict) : List Finding := verdict.violations.map Violation.finding

/-- The place at which the checks of a keyword of a node report: that of the node, but for the
schema of names its own. -/
def Place.reporting (place : Place) (name : String) : Place :=
  if name = "propertyNames" then place.keyword name else place

def Finding.IsAt (place : Place) (f : Finding) : Prop :=
  f.schemaLocation = place.schema ∧ f.valuePath = place.value

/-- What the violations of a node gain at a place. -/
def FindingsGain (name : String) (names : List String) (place : Place) (vs ws : List Violation) :
    Prop :=
  Gains name names (Finding.IsAt (place.reporting name)) (vs.map Violation.finding)
    (ws.map Violation.finding)

namespace FindingsGain

variable {name : String} {names others : List String} {place : Place} {vs ws us ts : List Violation}

lemma of_eq (h : vs.map Violation.finding = ws.map Violation.finding) :
    FindingsGain name names place vs ws := by
  rw [FindingsGain, h]
  exact .refl _

lemma append (h : FindingsGain name names place vs ws) (h' : FindingsGain name others place us ts) :
    FindingsGain name (names ++ others) place (vs ++ us) (ws ++ ts) := by
  simpa only [FindingsGain, List.map_append] using Gains.append h h'

lemma append_same (h : FindingsGain name names place vs ws) (us : List Violation) :
    FindingsGain name names place (vs ++ us) (ws ++ us) := by
  simpa only [FindingsGain, List.map_append] using Gains.append_same h _

lemma more (h : FindingsGain name names place vs ws) (others : List String) :
    FindingsGain name (names ++ others) place vs ws :=
  Gains.more h others

end FindingsGain

namespace Validation

lemma findings_violationsAt (keywords : Entries) (value : Value) (place : Place)
    (reasons : List Reason) : (violationsAt keywords value place reasons).map Violation.finding =
      reasons.map fun reason => ⟨value, reason, place.schema, place.value⟩ := by
  simp [violationsAt, Violation.finding]

/-- Reasons of the node itself are told at its place. -/
lemma findingsGain_violationsAt {name : String} {names : List String}
    {reasons reasons' : List Reason} (h : Gains name names (fun _ => True) reasons reasons')
    (hn : "propertyNames" ∉ names) (keywords keywords' : Entries) (value : Value)
    (place : Place) :
    FindingsGain name names place (violationsAt keywords value place reasons)
      (violationsAt keywords' value place reasons') := by
  rw [FindingsGain, findings_violationsAt, findings_violationsAt]
  refine h.map fun reason hname _ => ?_
  have hne : name ≠ "propertyNames" := ne_of_mem_of_not_mem hname hn
  simp [Finding.IsAt, Place.reporting, hne]

/-- What a verdict on a node gains: findings, unless it accepts the value, and then it did so
before, with the same result. -/
structure VerdictGains (name : String) (names : List String) (place : Place)
    (plain verdict : Verdict) : Prop where
  findings : FindingsGain name names place plain.violations verdict.violations
  result : ∀ w, verdict = .valid w → plain = .valid w

lemma verdictGains_verdictOf {name : String} {names : List String} {place : Place}
    {vs ws : List Violation} (h : FindingsGain name names place vs ws) (built : Value) :
    VerdictGains name names place (verdictOf built vs) (verdictOf built ws) := by
  refine ⟨by simpa using h, fun w hw => ?_⟩
  obtain ⟨rfl, rfl⟩ := verdictOf_eq_valid.1 hw
  have hnil : vs = [] := List.map_eq_nil_iff.1 (Gains.eq_nil h)
  rw [hnil]
  rfl

section

variable {keywords : Entries} {name : String} (x : Value)

/-! ### Scalars and arrays -/

lemma scalarVerdict_gains {names : List String} {check : Entries → Reasons}
    (hc : Reads names check) (hn : "propertyNames" ∉ names)
    (ha : keywords.named? name = none) (value : Value) (place : Place) :
    Outcome.Follows (VerdictGains name names place)
      (scalarVerdict keywords value place (check keywords))
      (scalarVerdict (keywords.insert (.string name) x) value place
        (check (keywords.insert (.string name) x))) := by
  refine .bind (.liftM (hc x ha)) fun reasons reasons' h => .pure ?_
  exact verdictGains_verdictOf (findingsGain_violationsAt h hn _ _ value place) value

/-- Elements are validated alike. -/
lemma elementsPart_gains (hne : name ≠ "items") (items : List Value) (value : Value)
    (place : Place) :
    Outcome.Follows (fun r r' => r.1 = r'.1 ∧
        r.2.map Violation.finding = r'.2.map Violation.finding)
      (elementsPart validate keywords items value place)
      (elementsPart validate (keywords.insert (.string name) x) items value place) := by
  unfold elementsPart
  rw [Entries.defined?_insert_of_ne hne]
  split
  · exact .pure ⟨rfl, rfl⟩
  · split
    · exact .pure ⟨rfl, by rw [findings_violationsAt, findings_violationsAt]⟩
    · exact .bind_same _ fun verdicts => .pure ⟨rfl, rfl⟩
  · exact .bind_same _ fun verdicts => .pure ⟨rfl, rfl⟩

lemma validateArray_gains (ha : keywords.named? name = none) (hne : name ≠ "items")
    (value : Value) (place : Place) :
    Outcome.Follows (VerdictGains name ["const", "enum"] place)
      (validateArray validate keywords value place)
      (validateArray validate (keywords.insert (.string name) x) value place) := by
  refine .bind (.liftM (reads_guard .array .json value x ha)) fun guard guard' hguard => ?_
  have hguard := findingsGain_violationsAt hguard (by decide) keywords
    (keywords.insert (.string name) x) value place
  cases value with
  | array kind items =>
    refine .bind (elementsPart_gains x hne items (.array kind items) place) fun r r' hr => ?_
    obtain ⟨result, violations⟩ := r
    obtain ⟨result', violations'⟩ := r'
    obtain ⟨rfl, hviolations⟩ := hr
    have helements : FindingsGain name [] place violations violations' := .of_eq hviolations
    exact .pure (verdictGains_verdictOf (hguard.append helements) result)
  | _ => exact .pure (verdictGains_verdictOf hguard _)

/-! ### Objects -/

/-- Two runs agree on the members, and one has reported more. -/
structure PartGains (name : String) (names : List String) (place : Place)
    (part part' : ObjectPart) : Prop where
  members : part.members = part'.members
  consumed : part.consumed = part'.consumed
  violations : FindingsGain name names place part.violations part'.violations

namespace PartGains

variable {names others : List String} {place : Place} {part part' : ObjectPart}

lemma merge (h : PartGains name names place part part') (key : Value) (verdict : Verdict) :
    PartGains name names place (part.merge key verdict) (part'.merge key verdict) := by
  refine ⟨?_, ?_, h.violations.append_same _⟩
  · simp only [ObjectPart.merge, h.members]
  · simp only [ObjectPart.merge, h.consumed]

lemma report {vs ws : List Violation} (h : PartGains name names place part part')
    (hvs : FindingsGain name others place vs ws) :
    PartGains name (names ++ others) place (part.report vs) (part'.report ws) :=
  ⟨h.members, h.consumed, h.violations.append hvs⟩

lemma more (h : PartGains name names place part part') (others : List String) :
    PartGains name (names ++ others) place part part' :=
  ⟨h.members, h.consumed, h.violations.more others⟩

lemma report_same (h : PartGains name names place part part') (vs : List Violation) :
    PartGains name names place (part.report vs) (part'.report vs) :=
  ⟨h.members, h.consumed, h.violations.append_same vs⟩

end PartGains

variable {names : List String} {members : Entries} {place : Place} {part part' : ObjectPart}

lemma mergeVisits_gains (visits : List Visit) (h : PartGains name names place part part') :
    Outcome.Follows (PartGains name names place) (mergeVisits visits part)
      (mergeVisits visits part') := by
  induction visits generalizing part part' with
  | nil => exact .pure h
  | cons v rest ih =>
    refine .bind_same _ fun verdict => .bind_same _ fun suppressed => ?_
    cases suppressed with
    | true => exact ih h
    | false => exact ih (h.merge v.key verdict)

lemma mergeMatching_gains (pattern child : Value) (h : PartGains name names place part part') :
    Outcome.Follows (PartGains name names place)
      (mergeMatching validate pattern child place members part)
      (mergeMatching validate pattern child place members part') := by
  induction members generalizing part part' with
  | nil => exact .pure h
  | cons e rest ih =>
    obtain ⟨key, member⟩ := e
    refine .bind_same _ fun found => ?_
    cases found with
    | true => exact .bind_same _ fun verdict => ih (h.merge key verdict)
    | false => exact ih h

lemma mergePatterns_gains (children : Entries) (h : PartGains name names place part part') :
    Outcome.Follows (PartGains name names place)
      (mergePatterns validate members place children part)
      (mergePatterns validate members place children part') := by
  induction children generalizing part part' with
  | nil => exact .pure h
  | cons e rest ih => exact .bind (mergeMatching_gains e.1 e.2 h) fun _ _ => ih

lemma additionalPart_gains (hne : name ≠ "additionalProperties")
    (h : PartGains name names place part part') :
    Outcome.Follows (PartGains name names place)
      (additionalPart validate keywords members place part)
      (additionalPart validate (keywords.insert (.string name) x) members place part') := by
  have hextra : extraMembers members part = extraMembers members part' := by
    simp only [extraMembers, ObjectPart.hasConsumed, h.consumed]
  unfold additionalPart
  simp only [hextra, Entries.defined?_insert_of_ne hne]
  split
  · exact .pure h
  · split
    · exact .pure ⟨by simp only [h.members], h.consumed, h.violations⟩
    · exact .pure ⟨by simp only [h.members], h.consumed, h.violations⟩
    · exact .pure (h.report_same _)
    · rw [mergeAdditional_eq, mergeAdditional_eq]
      exact mergeVisits_gains _ h

/-- A schema of names tells what it tells at its own place, about the object. -/
lemma isAt_of_namesViolations {v : Violation} (h : v ∈ namesViolations keywords members place) :
    v.finding.IsAt (place.reporting "propertyNames") := by
  unfold namesViolations at h
  split at h
  · rename_i schema _
    obtain ⟨key, -, h⟩ := List.mem_flatMap.1 h
    unfold keyViolations at h
    split at h
    · obtain ⟨reason, -, rfl⟩ := List.mem_map.1 h
      exact ⟨rfl, rfl⟩
    · obtain rfl := List.mem_singleton.1 h
      exact ⟨rfl, rfl⟩
    · cases h
  · cases h

lemma namesPart_gains (ha : keywords.named? name = none)
    (h : PartGains name names place part part') :
    Outcome.Follows (PartGains name (names ++ ["propertyNames"]) place)
      (namesPart validate keywords members place part)
      (namesPart validate (keywords.insert (.string name) x) members place part') := by
  by_cases hne : name = "propertyNames"
  -- without the keyword there is no schema of names, and with it all that it tells is new
  · subst hne
    intro next hnext
    rw [namesPart_eq_ok hnext]
    have hplain : namesPart validate keywords members place part = pure part := by
      simp [namesPart, Entries.defined?, ha]
    refine ⟨part, by rw [hplain]; rfl, ?_⟩
    have hnames : FindingsGain "propertyNames" ["propertyNames"] place []
        (namesViolations (keywords.insert (.string "propertyNames") x) members place) := by
      refine .of_nil (fun f hf => ⟨by simp, ?_⟩) fun hne => absurd rfl hne
      obtain ⟨v, hv, rfl⟩ := List.mem_map.1 hf
      exact isAt_of_namesViolations hv
    simpa [ObjectPart.report] using h.report hnames
  · unfold namesPart
    rw [Entries.defined?_insert_of_ne hne]
    split
    · exact .pure (h.more _)
    · exact .bind_same _ fun violations => .pure (h.report (.of_eq rfl))

def objectKeywords : List String :=
  ["required", "propertyNames", "minProperties", "maxProperties"]

lemma membersPart_gains (ha : keywords.named? name = none) (hp : name ≠ "properties")
    (hq : name ≠ "patternProperties") (hr : name ≠ "additionalProperties") (members : Entries)
    (place : Place) :
    Outcome.Follows (PartGains name objectKeywords place)
      (membersPart validate keywords members place)
      (membersPart validate (keywords.insert (.string name) x) members place) := by
  have about {names : List String} {reasons reasons' : List Reason}
      (h : Gains name names (fun _ => True) reasons reasons') (hn : "propertyNames" ∉ names) :=
    findingsGain_violationsAt h hn keywords (keywords.insert (.string name) x) (.object members)
      place
  unfold membersPart
  rw [Entries.children_insert_of_ne hp, Entries.children_insert_of_ne hq]
  -- the steps in their order; those for members keep what was gained before them
  refine .bind (.liftM (reads_required members x ha)) fun required required' hrequired => ?_
  refine .bind_same _ fun properties => ?_
  have hpart : PartGains name ["required"] place
      (ObjectPart.empty.report (violationsAt keywords (.object members) place required))
      (ObjectPart.empty.report (violationsAt (keywords.insert (.string name) x) (.object members)
        place required')) :=
    ⟨rfl, rfl, about hrequired (by decide)⟩
  rw [mergeProperties_eq, mergeProperties_eq]
  refine .bind (mergeVisits_gains _ hpart) fun _ _ hpart => ?_
  refine .bind_same _ fun patterns => .bind (mergePatterns_gains _ hpart) fun _ _ hpart => ?_
  refine .bind (additionalPart_gains x hr hpart) fun _ _ hpart => ?_
  refine .bind (namesPart_gains x ha hpart) fun _ _ hpart => ?_
  refine .bind (.liftM (reads_minProperties members x ha)) fun fewer fewer' hfewer => ?_
  refine .bind (.liftM (reads_maxProperties members x ha)) fun more more' hmore => .pure ?_
  exact hpart.report ((about hfewer (by decide)).append (about hmore (by decide)))

lemma validateObject_gains (ha : keywords.named? name = none) (hp : name ≠ "properties")
    (hq : name ≠ "patternProperties") (hr : name ≠ "additionalProperties") (value : Value)
    (place : Place) :
    Outcome.Follows (VerdictGains name (["const", "enum"] ++ objectKeywords) place)
      (validateObject validate keywords value place)
      (validateObject validate (keywords.insert (.string name) x) value place) := by
  refine .bind (.liftM (reads_guard .object .json value x ha)) fun guard guard' hguard => ?_
  have hguard := findingsGain_violationsAt hguard (by decide) keywords
    (keywords.insert (.string name) x) value place
  cases value with
  | object members =>
    refine .bind (membersPart_gains x ha hp hq hr members place) fun part part' hpart => .pure ?_
    rw [hpart.members]
    exact verdictGains_verdictOf (hguard.append hpart.violations) _
  | _ => exact .pure (verdictGains_verdictOf (hguard.more _) _)

/-! ### Nodes -/

/-- The keywords that the checks of a type read for themselves, in their order. -/
def ownKeywords : JsonType → List String
  | .string => textKeywords
  | .number | .integer => numberKeywords
  | .boolean | .null => []
  | .array => ["const", "enum"]
  | .object => ["const", "enum"] ++ objectKeywords

/-- Every check reads a keyword of its own. -/
lemma nodup_ownKeywords (type : JsonType) : (ownKeywords type).Nodup := by
  cases type <;> decide

/-- The keywords under which no values of members or elements are checked. -/
def checkKeywords : List String :=
  ["const", "enum", "minLength", "maxLength", "pattern", "minimum", "maximum", "exclusiveMinimum",
    "exclusiveMaximum", "multipleOf", "required", "propertyNames", "minProperties",
    "maxProperties"]

lemma validateTyped_gains (hn : name ∈ checkKeywords) (ha : keywords.named? name = none)
    (type : JsonType) (value : Value) (place : Place) :
    Outcome.Follows (VerdictGains name (ownKeywords type) place)
      (validateTyped validate type keywords value place)
      (validateTyped validate type (keywords.insert (.string name) x) value place) := by
  have hne {other : String} (h : other ∉ checkKeywords) : name ≠ other :=
    ne_of_mem_of_not_mem hn h
  have hconst (reasons : List Reason) : Reads [] fun _ => .ok reasons :=
    fun _ _ _ _ => .pure (.refl reasons)
  cases type with
  | string =>
    exact scalarVerdict_gains x (reads_string value place.schema) (by decide) ha value place
  | number => exact scalarVerdict_gains x (reads_number value) (by decide) ha value place
  | integer => exact scalarVerdict_gains x (reads_integer value) (by decide) ha value place
  | boolean => exact scalarVerdict_gains x (hconst _) (by decide) ha value place
  | null => exact scalarVerdict_gains x (hconst _) (by decide) ha value place
  | array => exact validateArray_gains x ha (hne (by decide)) value place
  | object =>
    exact validateObject_gains x ha (hne (by decide)) (hne (by decide)) (hne (by decide)) value
      place

lemma absentVerdict_gains (hne : name ≠ "default") (names : List String) (place : Place) :
    VerdictGains name names place (absentVerdict keywords place)
      (absentVerdict (keywords.insert (.string name) x) place) := by
  unfold absentVerdict
  rw [Entries.defined?_insert_of_ne hne]
  cases keywords.defined? "default" with
  | some w => exact ⟨.of_eq rfl, fun _ h => h⟩
  | none =>
    refine ⟨.of_eq rfl, fun w h => ?_⟩
    cases h

lemma validate_gains {type : JsonType} (ht : keywords.named? "type" = some (.string type.name))
    (hn : name ∈ checkKeywords) (ha : keywords.named? name = none) (value : Value)
    (place : Place) :
    Outcome.Follows (VerdictGains name (ownKeywords type) place)
      (validate (.object keywords) value place)
      (validate (.object (keywords.insert (.string name) x)) value place) := by
  have hne {other : String} (h : other ∉ checkKeywords) : name ≠ other :=
    ne_of_mem_of_not_mem hn h
  have ht' : (keywords.insert (.string name) x).named? "type" = some (.string type.name) := by
    rw [Entries.named?_insert_of_ne (hne (by decide)), ht]
  rw [validate_keywords, validate_keywords, validateKeywords_eq, validateKeywords_eq,
    Entries.declaredType_of_named? ht, Entries.declaredType_of_named? ht']
  split
  · exact .pure (absentVerdict_gains x (hne (by decide)) _ place)
  · exact validateTyped_gains x hn ha type value place

end

/-- **No check masks another.** With one keyword more, of those that check no members or elements,
a node that declares one type reports all that it reported, in the same order. All that it reports
more is about the value as a whole at the place of the node, or at the schema of names; only that
one can tell more than one thing. What is accepted with the keyword was accepted without it, with
the same result. -/
theorem findings_kept {type : JsonType} {keywords : Entries} {name : String} {value : Value}
    {place : Place} {verdict : Verdict}
    (ht : keywords.named? "type" = some (.string type.name)) (hn : name ∈ checkKeywords)
    (ha : keywords.named? name = none) (x : Value)
    (h : (validate (.object (keywords.insert (.string name) x)) value place).result =
      .ok verdict) :
    ∃ plain further, (validate (.object keywords) value place).result = .ok plain ∧
      plain.findings.Sublist verdict.findings ∧
      verdict.findings.Perm (plain.findings ++ further) ∧
      (∀ f ∈ further, f.valuePath = place.value ∧ f.schemaLocation =
        if name = "propertyNames" then place.schema.keyword name else place.schema) ∧
      (name ≠ "propertyNames" → further.length ≤ 1) ∧
      ∀ w, verdict = .valid w → plain = .valid w := by
  obtain ⟨plain, hplain, ⟨hkept, further, hperm, hat, hcount⟩, hvalid⟩ :=
    validate_gains x ht hn ha value place verdict h
  refine ⟨plain, further, hplain, hkept, hperm, fun f hf => ?_, fun hne => ?_, hvalid⟩
  · obtain ⟨hschema, hvalue⟩ := (hat f hf).2
    unfold Place.reporting at hschema hvalue
    split at hschema <;> simp_all [Place.keyword]
  · exact Nat.le_trans (hcount hne) (List.nodup_iff_count_le_one.1 (nodup_ownKeywords type) name)

/-- A node that refuses an object for itself, for a member and for an additional member. -/
def packetKeywords : Entries :=
  [(.string "type", .string "object"), (.string "const", .object []),
    (.string "properties", .object [(.string "size", .object [(.string "type", .string "integer"),
      (.string "minimum", .int 3)])]), (.string "additionalProperties", .bool false)]

def packet : Value := .object [(.string "size", .int 2), (.string "note", .string "x")]

/-- What `required` adds stands between what the node reported before. -/
theorem findings_kept_packet : ∃ plain verdict further,
    (validate (.object packetKeywords) packet .start).result = .ok plain ∧
      (validate (.object (packetKeywords.insert (.string "required") (.list [.string "id"])))
        packet .start).result = .ok verdict ∧
      plain.findings.Sublist verdict.findings ∧
      verdict.findings.Perm (plain.findings ++ further) ∧ plain.findings.length = 3 ∧
      verdict.findings.length = 4 ∧
      ∀ f ∈ further, f.valuePath = .here ∧ f.schemaLocation = .here := by
  have hany : ((validate (.object (packetKeywords.insert (.string "required")
      (.list [.string "id"]))) packet .start).result.toOption.any
      fun verdict => verdict.findings.length == 4) = true := by decide +kernel
  obtain ⟨verdict, h, hfour⟩ := exists_of_any hany
  have ht : packetKeywords.named? "type" = some (.string JsonType.object.name) := by
    simp [packetKeywords, JsonType.name]
  have ha : packetKeywords.named? "required" = none := by simp [packetKeywords]
  obtain ⟨plain, further, hplain, hkept, hperm, hat, -, -⟩ :=
    findings_kept ht (by decide) ha (.list [.string "id"]) h
  have hthree : ((validate (.object packetKeywords) packet .start).result.toOption.any
      fun plain => plain.findings.length == 3) = true := by decide +kernel
  rw [hplain] at hthree
  exact ⟨plain, verdict, further, hplain, h, hkept, hperm, by simpa [Except.toOption] using hthree,
    by simpa using hfour, hat⟩

end Validation

end JsonSchema
