import JsonSchema.Proofs.Insertion
import JsonSchema.Proofs.Keyword
import JsonSchema.Proofs.SameKey

/-!
Schemas that correspond validate alike.

A correspondence relates schemas whose nodes declare the same type and agree on the keywords of
that type, up to corresponding schemas below, and it relates the places at which validations start.
It may also relate the schema `true` to the node without keywords; these two differ on absent
values, so that only values without absent parts are compared then.
Main statement: validations of one value against corresponding schemas, at corresponding places,
end alike, with the same value or with corresponding violations, and report alike on the way.

One step of validation keeps the relation, one lemma for each function; the run follows by
induction on the depth of the schema.
-/

namespace JsonSchema

open Validation

/-! ### Schemas whose nodes agree -/

section

variable (opens : Prop) (schema keySchema : Value → Value → Prop)

inductive ItemsMatch : Value → Value → Prop where
  | one {s t : Value} (hs : s.isArray = false) (h : schema s t) : ItemsMatch s t
  | each {kind : ArrayKind} {ss ts : List Value} (h : List.Forall₂ schema ss ts) :
    ItemsMatch (.array kind ss) (.array kind ts)

/-- Schemas under the same names, in the same order. -/
def ChildrenMatch (es fs : Entries) : Prop :=
  List.Forall₂ (fun e f : Value × Value => e.1 = f.1 ∧ schema e.2 f.2) es fs

inductive MembersMatch : Value → Value → Prop where
  | other {v : Value} (hv : v.isObject = false) : MembersMatch v v
  | children {es fs : Entries} (h : ChildrenMatch schema es fs) :
    MembersMatch (.object es) (.object fs)

def Role.Matches : Role → Option Value → Option Value → Prop
  | .schema => Option.Rel schema
  | .items => Option.Rel (ItemsMatch schema)
  | .properties | .patterns => Option.Rel (MembersMatch schema)
  | .keySchema => Option.Rel keySchema
  | _ => Eq

variable {schema keySchema} in
lemma Role.eq_of_matches {role : Role} (hr : role.holdsSchemas = false) {x y : Option Value}
    (h : role.Matches schema keySchema x y) : x = y := by
  cases role <;> first | exact h | cases hr

/-- Nodes that agree on all that is read of them. -/
structure NodesMatch (keywords keywords' : Entries) : Prop where
  default : keywords.defined? "default" = keywords'.defined? "default"
  declared : keywords.declaredType = keywords'.declaredType
  applied : ∀ type, keywords.declaredType = .one type → ∀ name ∈ type.keywords,
    (Role.ofName name).Matches schema keySchema (keywords.named? name) (keywords'.named? name)

inductive SchemasMatch : Value → Value → Prop where
  | other {v : Value} (hv : v.isObject = false) : SchemasMatch v v
  | node {keywords keywords' : Entries} (h : NodesMatch schema keySchema keywords keywords') :
    SchemasMatch (.object keywords) (.object keywords')
  /-- What accepts all values, and what asks nothing of them. -/
  | opened (h : opens) : SchemasMatch (.bool true) (.object [])

inductive KeySchemasMatch : Value → Value → Prop where
  | other {v : Value} (hv : v.isObject = false) : KeySchemasMatch v v
  | node {keywords keywords' : Entries}
    (h : ∀ name ∈ textKeywords, keywords.named? name = keywords'.named? name) :
    KeySchemasMatch (.object keywords) (.object keywords')
  | opened (h : opens) : KeySchemasMatch (.bool true) (.object [])

end

lemma Location.push_congr {l m : Location} (step : Step) (h : l = m) : l.push step = m.push step :=
  congrArg (push · step) h

/-- Related schemas, key schemas and locations, so that related schemas have related parts and
related locations stay so step by step. -/
structure Correspondence where
  schema : Value → Value → Prop
  keySchema : Value → Value → Prop
  schemaLocation : Location → Location → Prop
  valuePath : Location → Location → Prop
  /-- Whether `true` may correspond to the node without keywords. -/
  opens : Prop := False
  schemas_match : ∀ {s t}, schema s t → SchemasMatch opens schema keySchema s t
  keySchemas_match : ∀ {s t}, keySchema s t → KeySchemasMatch opens s t
  names_keyed : opens → ∀ {keywords : Entries} {t : Value} {children : Entries},
    schema (.object keywords) t → keywords.named? "properties" = some (.object children) →
    children.IsKeyed := by exact False.elim
  push_schemaLocation : ∀ {l m} (step : Step), schemaLocation l m →
    schemaLocation (l.push step) (m.push step)
  push_valuePath : ∀ {l m} (step : Step), valuePath l m → valuePath (l.push step) (m.push step)

namespace Correspondence

variable (c : Correspondence)

structure Places (p q : Place) : Prop where
  schema : c.schemaLocation p.schema q.schema
  value : c.valuePath p.value q.value

/-- The same fault, or the same defect at related locations. -/
inductive Faults : Fault → Fault → Prop where
  | same (f : Fault) : Faults f f
  | moved {defect : SchemaDefect} {l m : Location} (h : c.schemaLocation l m) :
    Faults (.schema defect l) (.schema defect m)

inductive Notices : Notice → Notice → Prop where
  | unionType (types : List Value) {p q : Place} (h : c.Places p q) :
    Notices (.unionType types p.schema p.value) (.unionType types q.schema q.value)

structure Violations (v w : Violation) : Prop where
  value : v.value = w.value
  reason : v.reason = w.reason
  schema : c.schema v.schema w.schema ∨ c.keySchema v.schema w.schema
  places : c.Places ⟨v.schemaLocation, v.valuePath⟩ ⟨w.schemaLocation, w.valuePath⟩

inductive Verdicts : Verdict → Verdict → Prop where
  | valid (result : Value) : Verdicts (.valid result) (.valid result)
  | invalid {vs ws : List Violation} (h : List.Forall₂ c.Violations vs ws) :
    Verdicts (.invalid vs) (.invalid ws)

/-- The same members, and corresponding violations. -/
structure Built (a b : ObjectPart) : Prop where
  members : a.members = b.members
  violations : List.Forall₂ c.Violations a.violations b.violations

/-- Parts of one object, of which the same members are consumed. -/
structure Parts (object : Entries) (a b : ObjectPart) : Prop extends c.Built a b where
  consumed : ∀ e ∈ object, a.hasConsumed e.1 = b.hasConsumed e.1

abbrev Reasons (x y : JsonSchema.Reasons) : Prop := Related c.Faults Eq x y

abbrev Outcomes {α β : Type} (answers : α → β → Prop) (x : Outcome α) (y : Outcome β) : Prop :=
  Outcome.Related c.Notices c.Faults answers x y

/-- The values on which schemas are compared: all, or those without absent parts. -/
def Compares (value : Value) : Prop := c.opens → value.everyPart (!·.isUndefined) = true

/-- Two schemas validate every value on which they are compared alike. -/
def Agree (s t : Value) : Prop :=
  ∀ value, c.Compares value → ∀ {p q : Place}, c.Places p q →
    c.Outcomes c.Verdicts (validate s value p) (validate t value q)

variable {c}

lemma reasons_self (x : JsonSchema.Reasons) : c.Reasons x x := .refl .same (fun _ => rfl) x

namespace Compares

lemma item {kind : ArrayKind} {items : List Value} (h : c.Compares (.array kind items)) :
    ∀ item ∈ items, c.Compares item :=
  fun item hi ho => Value.everyPart_of_item (h ho) item hi

lemma member {members : Entries} (h : c.Compares (.object members)) :
    ∀ e ∈ members, c.Compares e.2 :=
  fun e he ho => (Value.everyPart_of_entry (h ho) e he).2

lemma isUndefined {value : Value} (h : c.Compares value) (ho : c.opens) :
    value.isUndefined = false := by
  simpa using Value.everyPart_self (h ho)

end Compares

/-! ### Places -/

namespace Places

variable {p q : Place} (h : c.Places p q)

include h

lemma keyword (name : String) : c.Places (p.keyword name) (q.keyword name) :=
  ⟨c.push_schemaLocation _ h.schema, h.value⟩

lemma property (name : String) (key : Value) :
    c.Places (p.property name key) (q.property name key) :=
  ⟨c.push_schemaLocation _ (c.push_schemaLocation _ h.schema), c.push_valuePath _ h.value⟩

lemma patternProperty (pattern key : Value) :
    c.Places (p.patternProperty pattern key) (q.patternProperty pattern key) :=
  ⟨c.push_schemaLocation _ (c.push_schemaLocation _ h.schema), c.push_valuePath _ h.value⟩

lemma additionalProperty (key : Value) :
    c.Places (p.additionalProperty key) (q.additionalProperty key) :=
  ⟨c.push_schemaLocation _ h.schema, c.push_valuePath _ h.value⟩

lemma listElement (index : Nat) : c.Places (p.listElement index) (q.listElement index) :=
  ⟨c.push_schemaLocation _ h.schema, c.push_valuePath _ h.value⟩

lemma tupleElement (index : Nat) : c.Places (p.tupleElement index) (q.tupleElement index) :=
  ⟨c.push_schemaLocation _ (c.push_schemaLocation _ h.schema), c.push_valuePath _ h.value⟩

end Places

/-! ### Violations and verdicts -/

lemma violationsAt {keywords keywords' : Entries} {p q : Place}
    (hs : c.schema (.object keywords) (.object keywords') ∨
      c.keySchema (.object keywords) (.object keywords'))
    (hp : c.Places p q) (value : Value) (reasons : List Reason) :
    List.Forall₂ c.Violations (violationsAt keywords value p reasons)
      (violationsAt keywords' value q reasons) := by
  induction reasons with
  | nil => exact .nil
  | cons reason rest ih => exact .cons ⟨rfl, rfl, hs, hp⟩ ih

lemma verdictOf (value : Value) {vs ws : List Violation} (h : List.Forall₂ c.Violations vs ws) :
    c.Verdicts (verdictOf value vs) (verdictOf value ws) := by
  cases h with
  | nil => exact .valid value
  | cons hv h => exact .invalid (.cons hv h)

lemma Faults.eq (hl : ∀ l m, c.schemaLocation l m → l = m) {f g : Fault} (h : c.Faults f g) :
    f = g := by
  cases h with
  | same => rfl
  | moved h => rw [hl _ _ h]

lemma Notices.eq (hl : ∀ l m, c.schemaLocation l m → l = m) (hp : ∀ l m, c.valuePath l m → l = m)
    {n m : Notice} (h : c.Notices n m) : n = m := by
  cases h with
  | unionType types h => rw [hl _ _ h.schema, hp _ _ h.value]

namespace Verdicts

variable {a b : Verdict} (h : c.Verdicts a b)

include h

lemma isValid_eq : a.isValid = b.isValid := by
  cases h <;> rfl

lemma violations : List.Forall₂ c.Violations a.violations b.violations := by
  cases h with
  | valid => exact .nil
  | invalid h => exact h

lemma elementResult_eq : elementResult a = elementResult b := by
  cases h <;> rfl

lemma rel {violations : Violation → Violation → Prop}
    (hv : ∀ v w, c.Violations v w → violations v w) : Verdict.Rel violations a b := by
  cases h with
  | valid result => exact .valid result
  | invalid h => exact .invalid (h.imp hv)

end Verdicts

lemma Built.report {a b : ObjectPart} {vs ws : List Violation} (h : c.Built a b)
    (hv : List.Forall₂ c.Violations vs ws) : c.Built (a.report vs) (b.report ws) :=
  ⟨h.members, List.rel_append h.violations hv⟩

lemma hasConsumed_merge (part : ObjectPart) (key : Value) (verdict : Verdict) (k : Value) :
    (part.merge key verdict).hasConsumed k = (part.hasConsumed k || Value.same key k) := by
  simp [ObjectPart.merge, ObjectPart.hasConsumed]

/-- What is merged under a key is not found under another one. -/
lemma contains_merge {part : ObjectPart} {key k : Value} (h : part.members.contains k = false)
    (hk : Value.same key k = false) (verdict : Verdict) :
    (part.merge key verdict).members.contains k = false := by
  have herase : (part.members.erase key).contains k = false := by
    simp only [Entries.contains, Entries.erase, List.any_eq_false] at h ⊢
    exact fun e he => h e (List.mem_filter.1 he).1
  cases verdict with
  | invalid vs => exact herase
  | valid result =>
    simp only [ObjectPart.merge]
    split
    · exact herase
    · rw [Entries.contains_eq_any_keys] at h ⊢
      rw [Entries.keys_insert]
      split
      · exact h
      · simp [h, hk]

namespace Parts

variable {object : Entries}

lemma report {a b : ObjectPart} {vs ws : List Violation} (h : c.Parts object a b)
    (hv : List.Forall₂ c.Violations vs ws) : c.Parts object (a.report vs) (b.report ws) :=
  ⟨h.toBuilt.report hv, h.consumed⟩

lemma merge {a b : ObjectPart} {u v : Verdict} (h : c.Parts object a b) (hv : c.Verdicts u v)
    (key : Value) : c.Parts object (a.merge key u) (b.merge key v) := by
  refine ⟨⟨?_, List.rel_append h.violations hv.violations⟩, fun e he => ?_⟩
  · cases hv <;> simp only [ObjectPart.merge, h.members]
  · rw [hasConsumed_merge, hasConsumed_merge, h.consumed e he]

/-- To merge that a member stays absent changes nothing, under a name that neither the object nor
the part knows. -/
lemma merge_absent {a b : ObjectPart} (h : c.Parts object a b) {name : Value}
    (hn : a.members.contains name = false) (ho : ∀ e ∈ object, Value.same name e.1 = false) :
    c.Parts object (a.merge name (.valid .undefined)) b := by
  refine ⟨⟨?_, ?_⟩, fun e he => ?_⟩
  · rw [← h.members]
    exact Entries.erase_of_not_contains hn
  · simpa [ObjectPart.merge, Verdict.violations] using h.violations
  · rw [hasConsumed_merge, ho e he, Bool.or_false, h.consumed e he]

lemma extraMembers_eq {a b : ObjectPart} (h : c.Parts object a b) :
    extraMembers object a = extraMembers object b :=
  List.filter_congr fun e he => by rw [h.consumed e he]

end Parts

/-! ### Checks of one value -/

section

variable {keywords keywords' : Entries} {p q : Place} {value : Value}

lemma guardReasons_eq (hc : keywords.named? "const" = keywords'.named? "const")
    (he : keywords.named? "enum" = keywords'.named? "enum")
    (expected : JsonType) (form : LiteralForm) (value : Value) :
    guardReasons keywords expected form value = guardReasons keywords' expected form value := by
  simp only [guardReasons, constReasons, enumReasons, whenGiven, Entries.defined?,
    Entries.given?, hc, he]

lemma patternOccurs {l m : Location} (h : c.schemaLocation l m) (pattern : Value) (text : Text) :
    Related c.Faults Eq (patternOccurs pattern text l) (patternOccurs pattern text m) := by
  unfold Validation.patternOccurs
  split
  · split
    · exact .ok rfl
    · exact .error (.same _)
    · exact .error (.same _)
    · exact .error (.moved h)
  · unfold bytesPattern
    simp only
    split
    · split
      · exact .error (.moved h)
      · exact .error (.same _)
    · exact .error (.same _)
  · exact .error (.same _)

lemma patternReasons (h : keywords.named? "pattern" = keywords'.named? "pattern")
    {l m : Location} (hl : c.schemaLocation l m) (text : Text) :
    c.Reasons (patternReasons keywords text l) (patternReasons keywords' text m) := by
  simp only [Validation.patternReasons, whenGiven, Entries.given?, h]
  split
  · refine .bind (patternOccurs (c.push_schemaLocation _ hl) _ _) ?_
    rintro found _ rfl
    exact reasons_self _
  · exact .ok rfl

lemma stringReasons
    (h : ∀ name ∈ textKeywords, keywords.named? name = keywords'.named? name)
    {l m : Location} (hl : c.schemaLocation l m) (value : Value) :
    c.Reasons (stringReasons keywords value l) (stringReasons keywords' value m) := by
  simp only [textKeywords, List.forall_mem_cons] at h
  obtain ⟨hconst, henum, hshort, hlong, hpattern, -⟩ := h
  have htext : ∀ text, c.Reasons (textReasons keywords text l) (textReasons keywords' text m) := by
    intro text
    simp only [textReasons, minLengthReasons, maxLengthReasons, whenGiven, Entries.given?, hshort,
      hlong]
    refine .bind (reasons_self _) ?_
    rintro short _ rfl
    refine .bind (reasons_self _) ?_
    rintro long _ rfl
    refine .bind (patternReasons hpattern hl text) ?_
    rintro pattern _ rfl
    exact .ok rfl
  unfold Validation.stringReasons
  rw [guardReasons_eq hconst henum]
  refine .bind (reasons_self _) ?_
  rintro guard _ rfl
  split
  · refine .bind (htext _) ?_
    rintro text _ rfl
    exact .ok rfl
  · exact .ok rfl

lemma numberReasons_eq
    (h : ∀ name ∈ JsonType.number.keywords, keywords.named? name = keywords'.named? name)
    (value : Value) : numberReasons keywords value = numberReasons keywords' value := by
  have hguard := guardReasons_eq (h "const" (by simp [JsonType.keywords]))
    (h "enum" (by simp [JsonType.keywords])) .number .plain value
  have hbound : ∀ bound : Bound, keywords.named? bound.keyword = keywords'.named? bound.keyword :=
    fun bound => h _ (by cases bound <;> simp [JsonType.keywords, Bound.keyword])
  have hmultiple := h "multipleOf" (by simp [JsonType.keywords])
  simp only [numberReasons, magnitudeReasons, boundReasons, multipleReasons, whenGiven,
    Entries.given?, hguard, hbound, hmultiple]

lemma scalarVerdict (hs : c.schema (.object keywords) (.object keywords')) (hp : c.Places p q)
    {x y : JsonSchema.Reasons} (h : c.Reasons x y) (value : Value) :
    c.Outcomes c.Verdicts (scalarVerdict keywords value p x)
      (scalarVerdict keywords' value q y) := by
  refine .bind (.liftM h) ?_
  rintro reasons _ rfl
  exact .pure (verdictOf value (violationsAt (.inl hs) hp value reasons))

end

/-! ### Arrays -/

section

variable {keywords keywords' : Entries} {p q : Place} {s t : Value}

lemma listVerdicts (h : c.Agree s t) (hp : c.Places p q) (index : Nat) {items : List Value}
    (hi : ∀ item ∈ items, c.Compares item) :
    c.Outcomes (List.Forall₂ c.Verdicts) (listVerdicts validate s p index items)
      (listVerdicts validate t q index items) := by
  induction items generalizing index with
  | nil => exact .pure .nil
  | cons item rest ih =>
    obtain ⟨hitem, hrest⟩ := List.forall_mem_cons.1 hi
    refine .bind (h item hitem (hp.listElement index)) fun a b hab => ?_
    refine .bind (ih (index + 1) hrest) fun as bs hbs => ?_
    exact .pure (.cons hab hbs)

lemma tupleVerdicts {ss ts : List Value} (h : List.Forall₂ c.Agree ss ts) (hp : c.Places p q)
    (index : Nat) {items : List Value} (hi : ∀ item ∈ items, c.Compares item) :
    c.Outcomes (List.Forall₂ c.Verdicts) (tupleVerdicts validate p index ss items)
      (tupleVerdicts validate q index ts items) := by
  induction h generalizing index items with
  | nil => cases items <;> exact .pure .nil
  | cons hst _ ih =>
    cases items with
    | nil => exact .pure .nil
    | cons item rest =>
      obtain ⟨hitem, hrest⟩ := List.forall_mem_cons.1 hi
      refine .bind (hst item hitem (hp.tupleElement index)) fun a b hab => ?_
      refine .bind (ih (index + 1) hrest) fun as bs hbs => ?_
      exact .pure (.cons hab hbs)

lemma ofVerdicts {as bs : List Verdict} (h : List.Forall₂ c.Verdicts as bs) :
    (ElementsPart.ofVerdicts as).results = (ElementsPart.ofVerdicts bs).results ∧
      List.Forall₂ c.Violations (ElementsPart.ofVerdicts as).violations
        (ElementsPart.ofVerdicts bs).violations := by
  induction h with
  | nil => exact ⟨rfl, .nil⟩
  | cons hab _ ih =>
    simp only [ElementsPart.ofVerdicts, List.map_cons, List.flatMap_cons] at ih ⊢
    exact ⟨by rw [hab.elementResult_eq, ih.1], List.rel_append hab.violations ih.2⟩

end

/-! ### Lookups in corresponding nodes -/

lemma isUndefined_of_schema {s t : Value} (h : c.schema s t) : s.isUndefined = t.isUndefined := by
  cases c.schemas_match h <;> rfl

lemma isUndefined_of_keySchema {s t : Value} (h : c.keySchema s t) :
    s.isUndefined = t.isUndefined := by
  cases c.keySchemas_match h <;> rfl

lemma isArray_of_schema {s t : Value} (h : c.schema s t) (hs : s.isArray = false) :
    t.isArray = false := by
  cases c.schemas_match h with
  | other => exact hs
  | _ => rfl

lemma ItemsMatch.isUndefined_eq {s t : Value} (h : ItemsMatch c.schema s t) :
    s.isUndefined = t.isUndefined := by
  cases h with
  | one _ h => exact isUndefined_of_schema h
  | each => rfl

/-- Where values of a keyword are related that are absent only together, so are those that are
not absent. -/
lemma defined?_rel {related : Value → Value → Prop} {keywords keywords' : Entries} {name : String}
    (h : Option.Rel related (keywords.named? name) (keywords'.named? name))
    (hu : ∀ s t, related s t → s.isUndefined = t.isUndefined) :
    Option.Rel related (keywords.defined? name) (keywords'.defined? name) := by
  unfold Entries.defined?
  generalize keywords.named? name = x at h
  generalize keywords'.named? name = y at h
  cases h with
  | none => exact .none
  | @some s t h =>
    cases hs : s.isUndefined with
    | true =>
      simp only [Option.filter, hs, ← hu s t h]
      exact .none
    | false =>
      simp only [Option.filter, hs, ← hu s t h]
      exact .some h

lemma isTruthy_of_childrenMatch {es fs : Entries} (h : ChildrenMatch c.schema es fs) :
    (Value.object es).isTruthy = (Value.object fs).isTruthy := by
  cases h <;> rfl

lemma children {keywords keywords' : Entries} {name : String}
    (h : Option.Rel (MembersMatch c.schema) (keywords.named? name) (keywords'.named? name)) :
    Related c.Faults (ChildrenMatch c.schema) (keywords.children name)
      (keywords'.children name) := by
  unfold Entries.children
  generalize keywords.named? name = x at h
  generalize keywords'.named? name = y at h
  cases h with
  | none => exact .ok .nil
  | some h =>
    cases h with
    | children h =>
      simp only [isTruthy_of_childrenMatch h]
      split
      · exact .ok .nil
      · exact .ok h
    | other hv =>
      simp only
      split
      · exact .ok .nil
      · split
        · cases hv
        · exact .error (.same _)

/-! ### Schemas that ask nothing -/

section

variable {s t : Value} {p q : Place}

/-- What is no object is one schema, or none. -/
lemma validate_other (h : c.schema s s) (hs : s.isObject = false) (hp : c.Places p q)
    (value : Value) : c.Outcomes c.Verdicts (validate s value p) (validate s value q) := by
  simp only [validate_eq s]
  cases s with
  | object => cases hs
  | bool b =>
    cases b
    · exact .pure (.invalid (.cons ⟨rfl, rfl, .inl h, hp⟩ .nil))
    · exact .pure (.valid value)
  | _ => exact .throw (.same _)

lemma absentVerdict {keywords keywords' : Entries}
    (hs : c.schema (.object keywords) (.object keywords'))
    (h : keywords.defined? "default" = keywords'.defined? "default") (hp : c.Places p q) :
    c.Verdicts (absentVerdict keywords p) (absentVerdict keywords' q) := by
  unfold Validation.absentVerdict
  rw [← h]
  split
  · exact .valid _
  · exact .invalid (violationsAt (.inl hs) hp .undefined [.absent])

/-- Absent values are validated alike, unless a schema is opened. -/
lemma validate_undefined (h : c.schema s t) (hp : c.Places p q) :
    c.Outcomes c.Verdicts (validate s .undefined p) (validate t .undefined q) ∨
      c.opens ∧ s = .bool true ∧ t = .object [] := by
  cases c.schemas_match h with
  | node hm =>
    rw [validate_absent, validate_absent]
    exact .inl (.pure (absentVerdict h hm.default hp))
  | other hs => exact .inl (validate_other h hs hp .undefined)
  | opened ho => exact .inr ⟨ho, rfl, rfl⟩

/-- A node without keywords accepts what is there. -/
lemma validate_empty {value : Value} (hv : value.isUndefined = false) (place : Place) :
    validate (.object []) value place = pure (.valid value) := by
  rw [validate_keywords, validateKeywords_eq, if_neg (by simp [hv])]
  rfl

lemma isUndefined_of_mem_extraMembers {members : Entries} {part : ObjectPart} {e : Value × Value}
    (h : e ∈ extraMembers members part) : e.2.isUndefined = false := by
  have hthere := (List.mem_filter.1 h).2
  simp only [Bool.and_eq_true, Bool.not_eq_true'] at hthere
  exact hthere.1

/-- To take additional members as they are is to merge them one after another as they are accepted
by a node without keywords. -/
lemma mergeAdditional_empty {extra : Entries} (hx : ∀ e ∈ extra, e.2.isUndefined = false)
    (place : Place) (part : ObjectPart) :
    ∃ merged, mergeAdditional validate (.object []) place extra part = pure merged ∧
      merged.members = extra.foldl (fun done e => done.insert e.1 e.2) part.members ∧
      merged.violations = part.violations := by
  induction extra generalizing part with
  | nil => exact ⟨part, rfl, rfl, rfl⟩
  | cons e rest ih =>
    obtain ⟨he, hrest⟩ := List.forall_mem_cons.1 hx
    obtain ⟨merged, hmerged, hmembers, hviolations⟩ := ih hrest (part.merge e.1 (.valid e.2))
    refine ⟨merged, ?_, ?_, ?_⟩
    · simp only [mergeAdditional, validate_empty he]
      exact hmerged
    · rw [hmembers]
      simp [ObjectPart.merge, he]
    · rw [hviolations]
      simp [ObjectPart.merge, Verdict.violations]

end

/-! ### Objects -/

section

variable {s t : Value} {p q : Place} {members : Entries} {a b : ObjectPart}

def ChildrenAgree (es fs : Entries) : Prop :=
  List.Forall₂ (fun e f : Value × Value => e.1 = f.1 ∧ c.schema e.2 f.2 ∧ c.Agree e.2 f.2) es fs

lemma isSuppressed_eq {u v : Verdict} (h : c.Verdicts u v) (member : Value) :
    isSuppressed member u = isSuppressed member v := by
  simp only [isSuppressed, h.isValid_eq]

/-- One declared member and then the others: on both sides it is passed over, or merged. -/
lemma mergeProperties_cons {name child child' : Value} {es fs : Entries}
    (hv : c.Outcomes c.Verdicts
      (validate child (members.get name) (p.property "properties" name))
      (validate child' (members.get name) (q.property "properties" name)))
    (hab : c.Parts members a b)
    (hpassed : c.Outcomes (c.Parts members) (mergeProperties validate members p es a)
      (mergeProperties validate members q fs b))
    (hmerged : ∀ verdict b', c.Parts members (a.merge name verdict) b' →
      c.Outcomes (c.Parts members) (mergeProperties validate members p es (a.merge name verdict))
        (mergeProperties validate members q fs b')) :
    c.Outcomes (c.Parts members) (mergeProperties validate members p ((name, child) :: es) a)
      (mergeProperties validate members q ((name, child') :: fs) b) := by
  refine .bind hv fun u v huv => ?_
  rw [isSuppressed_eq huv]
  refine .bind_eq (.liftM (.refl .same (fun _ => rfl) _)) fun suppressed => ?_
  cases suppressed with
  | true => exact hpassed
  | false => exact hmerged u _ (hab.merge huv name)

lemma mergeProperties {es fs : Entries} (h : ChildrenAgree (c := c) es fs) (hp : c.Places p q)
    (hm : ∀ e ∈ members, c.Compares e.2) (hk : c.opens → es.IsKeyed)
    (hn : c.opens → ∀ e ∈ es, a.members.contains e.1 = false) (hab : c.Parts members a b) :
    c.Outcomes (c.Parts members) (mergeProperties validate members p es a)
      (mergeProperties validate members q fs b) := by
  induction h generalizing a b with
  | nil => exact .pure hab
  | @cons e f es fs hef _ ih =>
    obtain ⟨name, child⟩ := e
    obtain ⟨_, child'⟩ := f
    obtain ⟨rfl, hchild, hagree⟩ := hef
    have hp' := hp.property "properties" name
    have hpassed := ih (fun ho => (hk ho).tail)
      (fun ho e he => hn ho e (List.mem_cons_of_mem _ he)) hab
    have hmerged : ∀ verdict b', c.Parts members (a.merge name verdict) b' → c.Outcomes
        (c.Parts members) (Validation.mergeProperties validate members p es (a.merge name verdict))
          (Validation.mergeProperties validate members q fs b') := fun verdict b' hab' =>
      ih (fun ho => (hk ho).tail) (fun ho e he => contains_merge
        (hn ho e (List.mem_cons_of_mem _ he)) ((hk ho).same_head he) verdict) hab'
    cases hg : members.get? name with
    | some member =>
      obtain ⟨key, hmem, -⟩ := Entries.mem_of_get? hg
      have hget : members.get name = member := by rw [Entries.get, hg]; rfl
      exact mergeProperties_cons (hget ▸ hagree member (hm _ hmem) hp') hab hpassed hmerged
    | none =>
      have hget : members.get name = .undefined := by rw [Entries.get, hg]; rfl
      rcases validate_undefined hchild hp' with hv | ⟨ho, rfl, rfl⟩
      · exact mergeProperties_cons (hget ▸ hv) hab hpassed hmerged
      · -- The absent member is merged as absent on one side, and passed over on the other.
        have hother : ∀ e ∈ members, Value.same name e.1 = false := by
          intro e he
          rw [← Bool.not_eq_true]
          intro hsame
          have hback := Value.same_symm ((hk ho).keys _ (List.mem_cons_self ..)) hsame
          simp [Entries.get?_eq_none.1 hg e he] at hback
        have hstays := hab.merge_absent (hn ho _ (List.mem_cons_self ..)) hother
        simp only [Validation.mergeProperties, hget, validate_true, validate_absent]
        exact hmerged _ _ hstays

lemma mergeMatching (h : c.Agree s t) (hp : c.Places p q) (pattern : Value) {object : Entries}
    (hm : ∀ e ∈ members, c.Compares e.2) (hab : c.Parts object a b) :
    c.Outcomes (c.Parts object) (mergeMatching validate pattern s p members a)
      (mergeMatching validate pattern t q members b) := by
  induction members generalizing a b with
  | nil => exact .pure hab
  | cons e rest ih =>
    obtain ⟨key, member⟩ := e
    obtain ⟨hmember, hrest⟩ := List.forall_mem_cons.1 hm
    refine .bind_eq
      (.liftM (patternOccurs (hp.patternProperty pattern key).schema pattern key.text))
      fun found => ?_
    cases found with
    | false => exact ih hrest hab
    | true =>
      refine .bind (h member hmember (hp.patternProperty pattern key)) fun u v huv => ?_
      exact ih hrest (hab.merge huv key)

lemma mergePatterns {es fs : Entries} (h : ChildrenAgree (c := c) es fs) (hp : c.Places p q)
    (hm : ∀ e ∈ members, c.Compares e.2) (hab : c.Parts members a b) :
    c.Outcomes (c.Parts members) (mergePatterns validate members p es a)
      (mergePatterns validate members q fs b) := by
  induction h generalizing a b with
  | nil => exact .pure hab
  | @cons e f es fs hef _ ih =>
    obtain ⟨pattern, child⟩ := e
    obtain ⟨_, child'⟩ := f
    obtain ⟨rfl, -, hagree⟩ := hef
    exact .bind (mergeMatching hagree hp pattern hm hab) fun _ _ hab => ih hab

lemma mergeAdditional (h : c.Agree s t) (hp : c.Places p q) {extra : Entries}
    (hx : ∀ e ∈ extra, c.Compares e.2) (hab : c.Parts members a b) :
    c.Outcomes (c.Parts members) (mergeAdditional validate s p extra a)
      (mergeAdditional validate t q extra b) := by
  induction extra generalizing a b with
  | nil => exact .pure hab
  | cons e rest ih =>
    obtain ⟨key, member⟩ := e
    obtain ⟨hmember, hrest⟩ := List.forall_mem_cons.1 hx
    refine .bind (h member hmember (hp.additionalProperty key)) fun u v huv => ?_
    rw [isSuppressed_eq huv]
    refine .bind_eq (.liftM (.refl .same (fun _ => rfl) _)) fun suppressed => ?_
    cases suppressed with
    | true => exact ih hrest hab
    | false => exact ih hrest (hab.merge huv key)

lemma nameVerdict (h : c.keySchema s t) (hp : c.Places p q) (key : Value) :
    c.Outcomes c.Verdicts (nameVerdict validate s key p) (nameVerdict validate t key q) := by
  have hm := c.keySchemas_match h
  cases hm with
  | node hm =>
    refine .bind (.liftM (stringReasons hm hp.schema _)) ?_
    rintro reasons _ rfl
    exact .pure (verdictOf _ (violationsAt (.inr h) hp _ _))
  | opened =>
    simp only [Validation.nameVerdict, validate_true]
    exact .pure (.valid _)
  | other hv =>
    cases s with
    | object => cases hv
    | bool b =>
      simp only [Validation.nameVerdict, validate_eq]
      cases b
      · exact .pure (.invalid (.cons ⟨rfl, rfl, .inr h, hp⟩ .nil))
      · exact .pure (.valid _)
    | _ =>
      simp only [Validation.nameVerdict, validate_eq]
      exact .throw (.same _)

lemma nameViolations (h : c.keySchema s t) (hp : c.Places p q) (members : Entries) :
    c.Outcomes (List.Forall₂ c.Violations) (nameViolations validate s p members)
      (nameViolations validate t q members) := by
  induction members with
  | nil => exact .pure .nil
  | cons e rest ih =>
    refine .bind (nameVerdict h hp e.1) fun u v huv => ?_
    refine .bind ih fun vs ws hvs => ?_
    exact .pure (List.rel_append huv.violations hvs)

end

/-! ### Nodes -/

section

variable {keywords keywords' : Entries} {p q : Place}

/-- All corresponding schemas that stand below a node validate alike. -/
def AgreeBelow (keywords : Entries) : Prop :=
  ∀ s t, s.depth ≤ Value.depthOfEntries keywords → c.schema s t → c.Agree s t

lemma elementsPart (ih : AgreeBelow (c := c) keywords)
    (hs : c.schema (.object keywords) (.object keywords'))
    (h : Option.Rel (ItemsMatch c.schema) (keywords.named? "items") (keywords'.named? "items"))
    (hp : c.Places p q) {items : List Value} (hi : ∀ item ∈ items, c.Compares item)
    (value : Value) :
    c.Outcomes (fun x y => x.1 = y.1 ∧ List.Forall₂ c.Violations x.2 y.2)
      (elementsPart validate keywords items value p)
      (elementsPart validate keywords' items value q) := by
  rcases option_rel_iff.1 (defined?_rel h fun _ _ => ItemsMatch.isUndefined_eq) with
    ⟨hd, hd'⟩ | ⟨s, t, hd, hd', hst⟩
  · rw [elementsPart_of_none hd, elementsPart_of_none hd']
    exact .pure ⟨rfl, .nil⟩
  have hdepth := Entries.depth_of_get? (Entries.named?_of_defined? hd)
  cases hst with
  | @each kind ss ts h =>
    rw [elementsPart_of_tuple hd, elementsPart_of_tuple hd', h.length_eq]
    split
    · exact .pure ⟨rfl, violationsAt (.inl hs) hp _ _⟩
    · have hbelow : ∀ s ∈ ss, s.depth ≤ Value.depthOfEntries keywords := by
        intro s hmem
        have := Value.depth_le_depthOfItems hmem
        simp only [Value.depth] at hdepth
        omega
      have hagree : List.Forall₂ c.Agree ss ts :=
        ((List.forall₂_and_left _ _).2 ⟨hbelow, h⟩).imp fun s t hst => ih s t hst.1 hst.2
      refine .bind (tupleVerdicts hagree hp 0 hi) fun as bs hab => ?_
      exact .pure ⟨by rw [(ofVerdicts hab).1], (ofVerdicts hab).2⟩
  | one hna h =>
    rw [elementsPart_of_one hd hna, elementsPart_of_one hd' (isArray_of_schema h hna)]
    refine .bind (listVerdicts (ih s t hdepth h) hp 0 hi) fun as bs hab => ?_
    exact .pure ⟨by rw [(ofVerdicts hab).1], (ofVerdicts hab).2⟩

lemma validateArray (ih : AgreeBelow (c := c) keywords)
    (hs : c.schema (.object keywords) (.object keywords'))
    (h : ∀ name ∈ JsonType.array.keywords, (Role.ofName name).Matches c.schema c.keySchema
      (keywords.named? name) (keywords'.named? name))
    (hp : c.Places p q) {value : Value} (hv : c.Compares value) :
    c.Outcomes c.Verdicts (validateArray validate keywords value p)
      (validateArray validate keywords' value q) := by
  unfold Validation.validateArray
  rw [guardReasons_eq (h "const" (by simp [JsonType.keywords]))
    (h "enum" (by simp [JsonType.keywords]))]
  refine .bind (.liftM (reasons_self _)) ?_
  rintro guard _ rfl
  have hguard := violationsAt (.inl hs) hp value guard
  cases value with
  | array kind items =>
    refine .bind (elementsPart ih hs (h "items" (by simp [JsonType.keywords])) hp hv.item _) ?_
    rintro ⟨result, vs⟩ ⟨_, ws⟩ ⟨rfl, hvs⟩
    exact .pure (verdictOf result (List.rel_append hguard hvs))
  | _ => exact .pure (verdictOf _ hguard)

lemma children_agree (ih : AgreeBelow (c := c) keywords) {name : String}
    (h : Option.Rel (MembersMatch c.schema) (keywords.named? name) (keywords'.named? name)) :
    Related c.Faults (fun es fs => keywords.children name = .ok es ∧ ChildrenAgree (c := c) es fs)
      (keywords.children name) (keywords'.children name) := by
  refine (children h).answer.mono (fun _ _ => id) fun es fs hes => ⟨hes.1, ?_⟩
  refine ((List.forall₂_and_left _ _).2 ⟨fun _ => id, hes.2⟩).imp fun e f hef => ?_
  have hdepth := Nat.le_of_lt (Entries.depth_of_children hes.1 hef.1)
  exact ⟨hef.2.1, hef.2.2, ih _ _ hdepth hef.2.2⟩

lemma isKeyed_of_children (hs : c.schema (.object keywords) (.object keywords')) (ho : c.opens)
    {es : Entries} (h : keywords.children "properties" = .ok es) : es.IsKeyed := by
  rcases Entries.named?_of_children h with hn | rfl
  · exact c.names_keyed ho hs hn
  · exact ⟨nofun, .nil⟩

lemma additionalPart (ih : AgreeBelow (c := c) keywords)
    (h : Option.Rel c.schema (keywords.named? "additionalProperties")
      (keywords'.named? "additionalProperties"))
    (hp : c.Places p q) {members : Entries} (hm : ∀ e ∈ members, c.Compares e.2)
    {a b : ObjectPart} (hab : c.Parts members a b) :
    c.Outcomes c.Built (additionalPart validate keywords members p a)
      (additionalPart validate keywords' members q b) := by
  have hx : ∀ e ∈ extraMembers members b, c.Compares e.2 :=
    fun e he => hm e (List.mem_filter.1 he).1
  have hmerged : ∀ {x y : Outcome ObjectPart}, c.Outcomes (c.Parts members) x y →
      c.Outcomes c.Built x y :=
    fun h => ⟨h.notices, h.result.mono (fun _ _ => id) fun _ _ => Parts.toBuilt⟩
  unfold Validation.additionalPart
  simp only [hab.extraMembers_eq]
  split
  · exact .pure hab.toBuilt
  · rcases option_rel_iff.1 (defined?_rel h fun _ _ => isUndefined_of_schema) with
      ⟨hd, hd'⟩ | ⟨s, t, hd, hd', hst⟩
    · rw [hd, hd']
      exact .pure ⟨by simp only [hab.members], hab.violations⟩
    · have hagree := ih s t (Entries.depth_of_get? (Entries.named?_of_defined? hd)) hst
      rw [hd, hd']
      cases c.schemas_match hst with
      | node => exact hmerged (mergeAdditional hagree hp hx hab)
      | opened =>
        -- One side takes the members as they are, the other one merges them in turn.
        have hthere : ∀ e ∈ extraMembers members b, e.2.isUndefined = false :=
          fun _ => isUndefined_of_mem_extraMembers
        obtain ⟨merged, hmerge, hmembers, hviolations⟩ := mergeAdditional_empty hthere q b
        simp only [hmerge]
        refine .pure ⟨?_, ?_⟩
        · rw [hmembers, hab.members]
        · rw [hviolations]
          exact hab.violations
      | other hv =>
        cases s with
        | object => cases hv
        | bool flag =>
          cases flag with
          | false =>
            exact .pure (hab.toBuilt.report (.cons ⟨rfl, rfl, .inl hst, hp.keyword _⟩ .nil))
          | true => exact .pure ⟨by simp only [hab.members], hab.violations⟩
        | _ => exact hmerged (mergeAdditional hagree hp hx hab)

lemma namesPart
    (h : Option.Rel c.keySchema (keywords.named? "propertyNames")
      (keywords'.named? "propertyNames"))
    (hp : c.Places p q) (members : Entries) {a b : ObjectPart} (hab : c.Built a b) :
    c.Outcomes c.Built (namesPart validate keywords members p a)
      (namesPart validate keywords' members q b) := by
  unfold Validation.namesPart
  rcases option_rel_iff.1 (defined?_rel h fun _ _ => isUndefined_of_keySchema) with
    ⟨hd, hd'⟩ | ⟨s, t, hd, hd', hst⟩
  · rw [hd, hd']
    exact .pure hab
  · rw [hd, hd']
    refine .bind (nameViolations hst (hp.keyword _) members) fun vs ws hvs => ?_
    exact .pure (hab.report hvs)

lemma requiredReasons_eq (h : keywords.named? "required" = keywords'.named? "required")
    (members : Entries) : requiredReasons keywords members = requiredReasons keywords' members := by
  simp only [requiredReasons, h]

lemma minCountReasons_eq (h : keywords.named? "minProperties" = keywords'.named? "minProperties")
    (members : Entries) : minCountReasons keywords members = minCountReasons keywords' members := by
  simp only [minCountReasons, h]

lemma maxCountReasons_eq (h : keywords.named? "maxProperties" = keywords'.named? "maxProperties")
    (members : Entries) : maxCountReasons keywords members = maxCountReasons keywords' members := by
  simp only [maxCountReasons, whenGiven, Entries.given?, h]

lemma membersPart (ih : AgreeBelow (c := c) keywords)
    (hs : c.schema (.object keywords) (.object keywords'))
    (h : ∀ name ∈ JsonType.object.keywords, (Role.ofName name).Matches c.schema c.keySchema
      (keywords.named? name) (keywords'.named? name))
    (hp : c.Places p q) {members : Entries} (hm : ∀ e ∈ members, c.Compares e.2) :
    c.Outcomes c.Built (membersPart validate keywords members p)
      (membersPart validate keywords' members q) := by
  simp only [JsonType.keywords, List.forall_mem_cons] at h
  obtain ⟨-, -, hreq, hprops, hpatterns, hadd, hnames, hmin, hmax, -⟩ := h
  have habout := violationsAt (.inl hs) hp (.object members)
  have hstart : c.Parts members .empty .empty := ⟨⟨rfl, .nil⟩, fun _ _ => rfl⟩
  unfold Validation.membersPart
  rw [requiredReasons_eq hreq, minCountReasons_eq hmin, maxCountReasons_eq hmax]
  refine .bind (.liftM (reasons_self _)) ?_
  rintro required _ rfl
  refine .bind (.liftM (children_agree ih hprops)) fun es fs hes => ?_
  refine .bind (mergeProperties hes.2 hp hm (fun ho => isKeyed_of_children hs ho hes.1)
    (fun _ _ _ => rfl) (hstart.report (habout required))) fun a b hab => ?_
  refine .bind (.liftM (children_agree ih hpatterns)) fun es fs hes => ?_
  refine .bind (mergePatterns hes.2 hp hm hab) fun a b hab => ?_
  refine .bind (additionalPart ih hadd hp hm hab) fun a b hab => ?_
  refine .bind (namesPart hnames hp members hab) fun a b hab => ?_
  refine .bind (.liftM (reasons_self _)) ?_
  rintro fewer _ rfl
  refine .bind (.liftM (reasons_self _)) ?_
  rintro more _ rfl
  exact .pure (hab.report (List.rel_append (habout fewer) (habout more)))

lemma validateObject (ih : AgreeBelow (c := c) keywords)
    (hs : c.schema (.object keywords) (.object keywords'))
    (h : ∀ name ∈ JsonType.object.keywords, (Role.ofName name).Matches c.schema c.keySchema
      (keywords.named? name) (keywords'.named? name))
    (hp : c.Places p q) {value : Value} (hv : c.Compares value) :
    c.Outcomes c.Verdicts (validateObject validate keywords value p)
      (validateObject validate keywords' value q) := by
  unfold Validation.validateObject
  rw [guardReasons_eq (h "const" (by simp [JsonType.keywords]))
    (h "enum" (by simp [JsonType.keywords]))]
  refine .bind (.liftM (reasons_self _)) ?_
  rintro guard _ rfl
  have hguard := violationsAt (.inl hs) hp value guard
  cases value with
  | object members =>
    refine .bind (membersPart ih hs h hp hv.member) fun a b hab => ?_
    rw [hab.members]
    exact .pure (verdictOf _ (List.rel_append hguard hab.violations))
  | _ => exact .pure (verdictOf _ hguard)

lemma validateTyped (ih : AgreeBelow (c := c) keywords)
    (hs : c.schema (.object keywords) (.object keywords')) {type : JsonType}
    (h : ∀ name ∈ type.keywords, (Role.ofName name).Matches c.schema c.keySchema
      (keywords.named? name) (keywords'.named? name))
    (hp : c.Places p q) {value : Value} (hv : c.Compares value) :
    c.Outcomes c.Verdicts (validateTyped validate type keywords value p)
      (validateTyped validate type keywords' value q) := by
  cases type with
  | string =>
    have he := fun name hn => Role.eq_of_matches (holdsSchemas_of_text name hn) (h name hn)
    exact scalarVerdict hs hp (stringReasons he hp.schema value) value
  | number =>
    have he := fun name hn => Role.eq_of_matches (holdsSchemas_of_number name hn) (h name hn)
    simp only [Validation.validateTyped, numberReasons_eq he]
    exact scalarVerdict hs hp (reasons_self _) value
  | integer =>
    have he := fun name hn => Role.eq_of_matches (holdsSchemas_of_number name hn) (h name hn)
    simp only [Validation.validateTyped, integerReasons, numberReasons_eq he]
    exact scalarVerdict hs hp (reasons_self _) value
  | boolean => exact scalarVerdict hs hp (reasons_self _) value
  | null => exact scalarVerdict hs hp (reasons_self _) value
  | array => exact validateArray ih hs h hp hv
  | object => exact validateObject ih hs h hp hv

lemma validateKeywords (ih : AgreeBelow (c := c) keywords)
    (hs : c.schema (.object keywords) (.object keywords'))
    (h : NodesMatch c.schema c.keySchema keywords keywords') (hp : c.Places p q) {value : Value}
    (hv : c.Compares value) :
    c.Outcomes c.Verdicts (validateKeywords validate keywords value p)
      (validateKeywords validate keywords' value q) := by
  rw [validateKeywords_eq, validateKeywords_eq, ← h.declared]
  split
  · exact .pure (absentVerdict hs h.default hp)
  · split
    · refine .bind_eq ⟨.cons (.unionType _ hp) .nil, .ok rfl⟩ fun _ => ?_
      exact .pure (.invalid .nil)
    · rename_i type ht
      exact validateTyped ih hs (h.applied type ht) hp hv
    · exact .pure (.valid value)

end

/-! ### Corresponding schemas -/

/-- **Corresponding schemas** validate every value alike on which they are compared. -/
theorem agree_of_compares {s t : Value} (h : c.schema s t) : c.Agree s t := by
  induction hd : s.depth using Nat.strongRecOn generalizing s t with
  | _ depth ih =>
    intro value hv p q hp
    cases c.schemas_match h with
    | node hm =>
      rw [validate_keywords, validate_keywords]
      refine validateKeywords (fun s t hs hst => ih s.depth ?_ hst rfl) h hm hp hv
      rw [← hd]
      simp only [Value.depth]
      omega
    | opened ho =>
      rw [validate_true, validate_empty (hv.isUndefined ho)]
      exact .pure (.valid value)
    | other hs => exact validate_other h hs hp value

/-- Where no schema is opened, all values are compared. -/
theorem agree {s t : Value} (h : c.schema s t) (value : Value) {p q : Place} (hp : c.Places p q)
    (ho : ¬c.opens := by exact id) :
    c.Outcomes c.Verdicts (validate s value p) (validate t value q) :=
  agree_of_compares h value (fun h => absurd h ho) hp

end Correspondence

end JsonSchema
