import JsonSchema.Proofs.Object.Stable

/-!
Values that are completed once and for all.

Put a completed value to its schema again, and nothing is left to do: absent members have their
defaults, falsy members that were passed over are additional ones, absent elements are null. This
takes schemas whose defaults stay as they are, without patterns, and without literals for arrays
and objects, which a value might match or miss only by being completed.
-/

namespace JsonSchema

open Validation Visit Outcome

/-- The default of a node, if there is one, is accepted by the node as it is. -/
def Entries.DefaultStays (keywords : Entries) : Prop :=
  ∀ value, keywords.defined? "default" = some value →
    (validate (.object keywords) value .start).result = .ok (.valid value)

/-- Schemas that complete a value once and for all. -/
inductive Value.CompletesOnce : Value → Prop where
  | bool (b : Bool) : CompletesOnce (.bool b)
  | scalar {keywords : Entries} {type : JsonType} (type_eq : keywords.declaredType = .one type)
    (ne_array : type ≠ .array) (ne_object : type ≠ .object)
    (default_stays : keywords.DefaultStays) : CompletesOnce (.object keywords)
  | untyped {keywords : Entries} (type_eq : keywords.declaredType = .unknown)
    (default_stays : keywords.DefaultStays) : CompletesOnce (.object keywords)
  | array {keywords : Entries} (type_eq : keywords.declaredType = .one .array)
    (lacks : keywords.Lacks ["const", "enum"])
    (items : ∀ schema, keywords.defined? "items" = some schema → CompletesOnce schema)
    (default_stays : keywords.DefaultStays) : CompletesOnce (.object keywords)
  | object {keywords : Entries} (record : PlainRecord keywords)
    (properties : ∀ d ∈ childrenOf keywords "properties", CompletesOnce d.2)
    (default_stays : keywords.DefaultStays) : CompletesOnce (.object keywords)

/-- Every value that is there and is accepted is completed to one that stays as it is. -/
def KeepsResults (schema : Value) : Prop :=
  ∀ value : Value, value.everyPart Value.isKeyed = true → value.isUndefined = false →
    ∀ (place : Place) (result : Value),
      (validate schema value place).result = .ok (.valid result) → Stays schema result

namespace Value.CompletesOnce

variable {schema : Value} (h : schema.CompletesOnce)

include h

lemma isUnion : schema.isUnion = false := by
  rw [← Bool.not_eq_true]
  intro hu
  cases h with
  | bool b => cases hu
  | object record =>
    simp [Value.isUnion, record.type] at hu
  | _ type_eq =>
    obtain ⟨types, ht⟩ := Entries.declaredType_of_isUnion hu
    cases type_eq.symm.trans ht

lemma isArray : schema.isArray = false := by
  cases h <;> rfl

lemma defaultStays {keywords : Entries} (hs : schema = .object keywords) :
    keywords.DefaultStays := by
  cases h <;> cases hs <;> assumption

/-- What an absent value becomes stays as it is. -/
lemma stays_of_absent {w : Value} (hw : w.isUndefined = false) {place : Place}
    (hv : (validate schema .undefined place).result = .ok (.valid w)) : Stays schema w := by
  rcases absent_valid hv with ⟨-, rfl⟩ | ⟨keywords, hs, hd⟩
  · cases hw
  · subst hs
    exact stays_of_valid (h.defaultStays rfl w hd)

/-- What an element that is accepted becomes stays as it is, if that holds of elements that are
there. -/
lemma stays_of_element {item w : Value} {place : Place}
    (hv : (validate schema item place).result = .ok (.valid w))
    (hstay : item.isUndefined = false → Stays schema w) :
    Stays schema (elementResult (.valid w)) := by
  cases hw : w.isUndefined with
  | false =>
    rw [show elementResult (.valid w) = w by simp [elementResult, hw]]
    cases hi : item.isUndefined with
    | false => exact hstay hi
    | true => exact h.stays_of_absent hw (Value.eq_undefined hi ▸ hv)
  | true =>
    -- Only where everything is accepted, an absent element stays absent, and becomes null.
    rw [show elementResult (.valid w) = .null by simp [elementResult, hw]]
    have hi : item.isUndefined = true := by
      by_contra hn
      simp [isUndefined_of_valid (by simpa using hn) hv] at hw
    obtain rfl := Value.eq_undefined hi
    rcases absent_valid hv with ⟨hs, -⟩ | ⟨keywords, -, hd⟩
    · subst hs
      exact fun place => by simp
    · simp [Entries.isUndefined_of_defined? hd] at hw

end Value.CompletesOnce

/-! ### Scalars -/

/-- What a scalar is accepted as is itself. -/
lemma eq_of_scalar_valid {keywords : Entries} {type : JsonType} {value w : Value} {place : Place}
    (ht : keywords.declaredType = .one type) (ha : type ≠ .array) (ho : type ≠ .object)
    (hv : value.isUndefined = false)
    (h : (validate (.object keywords) value place).result = .ok (.valid w)) : w = value := by
  rw [validate_keywords, validateKeywords_eq, if_neg (by simp [hv]), ht] at h
  have hscalar : ∀ reasons,
      (scalarVerdict keywords value place reasons).result = .ok (.valid w) → w = value := by
    intro reasons h
    obtain ⟨_, -, h⟩ := result_bind_eq_ok.1 h
    exact (verdictOf_eq_valid.1 (Except.ok.inj h)).2.symm
  cases type with
  | array => exact absurd rfl ha
  | object => exact absurd rfl ho
  | _ => exact hscalar _ h

lemma eq_of_untyped_valid {keywords : Entries} {value w : Value} {place : Place}
    (ht : keywords.declaredType = .unknown) (hv : value.isUndefined = false)
    (h : (validate (.object keywords) value place).result = .ok (.valid w)) : w = value := by
  rw [validate_keywords, validateKeywords_eq, if_neg (by simp [hv]), ht] at h
  cases h
  rfl

lemma defaultStays_of_none {keywords : Entries} (h : keywords.defined? "default" = none) :
    keywords.DefaultStays := by
  intro value hv
  rw [h] at hv
  cases hv

/-- A default that a scalar accepts stays as it is. -/
lemma defaultStays_of_scalar {keywords : Entries} {type : JsonType}
    (ht : keywords.declaredType = .one type) (ha : type ≠ .array) (ho : type ≠ .object)
    (h : (keywords.defined? "default").all (fun value =>
      (validate (.object keywords) value .start).result.toOption.any Verdict.isValid) = true) :
    keywords.DefaultStays := by
  intro value hv
  rw [hv] at h
  obtain ⟨w, hw⟩ := exists_of_isValid h
  obtain rfl := eq_of_scalar_valid ht ha ho (Entries.isUndefined_of_defined? hv) hw
  exact hw

/-! ### Arrays -/

section

variable {keywords : Entries} {place : Place}

/-- Without literals, an array is accepted if its elements are. -/
lemma validate_array_valid (ht : keywords.declaredType = .one .array)
    (hl : keywords.Lacks ["const", "enum"]) (kind : ArrayKind) (items : List Value)
    {result : Value} :
    (validate (.object keywords) (.array kind items) place).result = .ok (.valid result) ↔
      (elementsPart validate keywords items (.array kind items) place).result =
        .ok (result, []) := by
  rw [validate_array ht rfl, validateArray,
    guardReasons_eq_nil hl (show (Value.array kind items).kindName = _ from rfl) .json]
  constructor
  · intro h
    obtain ⟨guard, hg, h⟩ := result_bind_eq_ok.1 h
    cases hg
    obtain ⟨⟨built, violations⟩, he, h⟩ := result_bind_eq_ok.1 h
    obtain ⟨hn, rfl⟩ := verdictOf_eq_valid.1 (Except.ok.inj h)
    obtain rfl : violations = [] := hn
    exact he
  · intro he
    exact result_bind_eq_ok.2 ⟨[], rfl, result_bind_eq_ok.2 ⟨_, he, rfl⟩⟩

/-- Only arrays are accepted as arrays. -/
lemma array_of_valid (ht : keywords.declaredType = .one .array) {value w : Value}
    (hv : value.isUndefined = false)
    (h : (validate (.object keywords) value place).result = .ok (.valid w)) :
    ∃ kind items, value = .array kind items := by
  rw [validate_array ht hv] at h
  obtain ⟨guard, hg, h⟩ := result_bind_eq_ok.1 h
  rw [result_liftM] at hg
  cases value with
  | array kind items => exact ⟨kind, items, rfl⟩
  | _ =>
    obtain ⟨hguard, -⟩ := verdictOf_eq_valid.1 (Except.ok.inj h)
    simp [guardReasons_eq_ok hg, violationsAt, guardRefusals, typeReasons, Value.mismatch?,
      Value.kindName, JsonType.name] at hguard

lemma listVerdicts_of_stays {schema : Value} {items : List Value}
    (h : ∀ v ∈ items, Stays schema v) (place : Place) (index : Nat) :
    (listVerdicts validate schema place index items).result = .ok (items.map .valid) := by
  induction items generalizing index with
  | nil => rfl
  | cons v rest ih =>
    refine result_bind_eq_ok.2 ⟨_, h v (by simp) _, result_bind_eq_ok.2 ⟨_, ih ?_ _, rfl⟩⟩
    exact fun w hw => h w (by simp [hw])

lemma isUndefined_elementResult (verdict : Verdict) :
    (elementResult verdict).isUndefined = false := by
  cases verdict with
  | valid w =>
    cases hw : w.isUndefined with
    | true => simp only [elementResult, hw]; rfl
    | false => simp only [elementResult, hw, Bool.false_eq_true, if_false]
  | invalid vs => rfl

/-- Elements that are there and are accepted as they are make up the array that they were. -/
lemma ofVerdicts_valid {items : List Value} (h : ∀ v ∈ items, v.isUndefined = false) :
    ElementsPart.ofVerdicts (items.map .valid) = ⟨items, []⟩ := by
  have hresults : items.map (elementResult ∘ .valid) = items :=
    (List.map_congr_left fun v hv => by simp [elementResult, h v hv]).trans (List.map_id _)
  simp [ElementsPart.ofVerdicts, hresults, Verdict.violations]

/-- An array of elements that stay as they are stays as it is. -/
lemma stays_of_elements (ht : keywords.declaredType = .one .array)
    (hl : keywords.Lacks ["const", "enum"]) {schema : Value}
    (hi : keywords.defined? "items" = some schema) (hs : schema.isArray = false)
    {items : List Value} (h : ∀ v ∈ items, v.isUndefined = false ∧ Stays schema v) :
    Stays (.object keywords) (.list items) := by
  intro place
  refine (validate_array_valid ht hl .list items).2 ?_
  rw [elementsPart_of_one hi hs]
  refine result_bind_eq_ok.2 ⟨_, listVerdicts_of_stays (fun v hv => (h v hv).2) place 0, ?_⟩
  rw [ofVerdicts_valid fun v hv => (h v hv).1]
  rfl

end

/-- The elements of an array that is accepted become elements that stay as they are. -/
lemma Value.CompletesOnce.exists_elements {keywords : Entries} {schema : Value}
    (h : schema.CompletesOnce) (hi : keywords.defined? "items" = some schema) {kind : ArrayKind}
    {items : List Value} {place : Place} {result : Value}
    (hpart : (elementsPart validate keywords items (.array kind items) place).result =
      .ok (result, []))
    (hkeeps : KeepsResults schema)
    (hvalue : (Value.array kind items).everyPart Value.isKeyed = true) :
    ∃ elements, result = .list elements ∧
      ∀ r ∈ elements, r.isUndefined = false ∧ Stays schema r := by
  rw [elementsPart_of_one hi h.isArray] at hpart
  obtain ⟨verdicts, hverdicts, hpart⟩ := result_bind_eq_ok.1 hpart
  obtain ⟨rfl, hnone⟩ := Prod.mk.inj (Except.ok.inj hpart)
  refine ⟨_, rfl, fun r hr => ?_⟩
  obtain ⟨verdict, hm, rfl⟩ := List.mem_map.1 hr
  refine ⟨isUndefined_elementResult verdict, ?_⟩
  obtain ⟨i, hi⟩ := List.mem_iff_getElem?.1 hm
  obtain ⟨item, hitem, hv⟩ := listVerdicts_eq_ok hverdicts i verdict hi
  cases verdict with
  | valid w =>
    have hkeyed := Value.everyPart_of_item hvalue item (List.mem_of_getElem? hitem)
    exact h.stays_of_element hv fun hd => hkeeps item hkeyed hd _ w hv
  | invalid vs =>
    obtain rfl : vs = [] := List.flatMap_eq_nil_iff.1 hnone _ hm
    simpa [isUnion_of_invalid_nil hv] using h.isUnion

/-! ### Objects -/

lemma isKeyed_childrenOf {keywords : Entries} {name : String}
    (h : (Value.object keywords).everyPart Value.isKeyed = true) :
    (childrenOf keywords name).IsKeyed := by
  cases hc : childrenOf keywords name with
  | nil => exact ⟨nofun, .nil⟩
  | cons d rest =>
    have hn := named?_of_mem_childrenOf (show d ∈ childrenOf keywords name by rw [hc]; simp)
    rw [← hc]
    exact Value.isKeyed_object (Value.everyPart_of_get? h hn)

/-- An object that a plain record accepts. -/
lemma recordAccepted_of_valid {keywords members : Entries} {place : Place} {w : Value}
    (record : PlainRecord keywords)
    (hschema : (Value.object keywords).everyPart Value.isKeyed = true)
    (hunion : ∀ d ∈ childrenOf keywords "properties", Value.isUnion d.2 = false)
    (hmembers : (Value.object members).everyPart Value.isKeyed = true)
    (h : (validate (.object keywords) (.object members) place).result = .ok (.valid w)) :
    RecordAccepted keywords members place := by
  have hkeyed := Value.isKeyed_object hmembers
  refine ⟨record, isKeyed_childrenOf hschema, hunion, hkeyed, ?_, ?_⟩
  · exact (hasAnswer_validate_object record.type hkeyed.clear).1 ⟨_, h⟩
  · exact (verdictOf_eq_valid.1 (validate_object_of_clear record.type hkeyed.clear h).2.symm).1

/-! ### Every schema -/

lemma keepsResults_bool (b : Bool) : KeepsResults (.bool b) := by
  intro value _ _ place result hvalid
  cases b with
  | false => rw [validate_false] at hvalid; cases hvalid
  | true => exact fun p => by simp

lemma keepsResults_scalar {keywords : Entries} {type : JsonType}
    (ht : keywords.declaredType = .one type) (ha : type ≠ .array) (ho : type ≠ .object) :
    KeepsResults (.object keywords) := by
  intro value _ hv place result hvalid
  obtain rfl := eq_of_scalar_valid ht ha ho hv hvalid
  exact stays_of_valid hvalid

lemma keepsResults_untyped {keywords : Entries} (ht : keywords.declaredType = .unknown) :
    KeepsResults (.object keywords) := by
  intro value _ hv place result hvalid
  obtain rfl := eq_of_untyped_valid ht hv hvalid
  exact stays_of_valid hvalid

lemma keepsResults_array {keywords : Entries} (ht : keywords.declaredType = .one .array)
    (hl : keywords.Lacks ["const", "enum"])
    (hitems : ∀ schema, keywords.defined? "items" = some schema →
      schema.CompletesOnce ∧ KeepsResults schema) : KeepsResults (.object keywords) := by
  intro value hvalue hv place result hvalid
  obtain ⟨kind, elements, rfl⟩ := array_of_valid ht hv hvalid
  have hpart := (validate_array_valid ht hl kind elements).1 hvalid
  cases hi : keywords.defined? "items" with
  | none =>
    rw [elementsPart_of_none hi] at hpart
    cases hpart
    exact stays_of_valid hvalid
  | some schema =>
    obtain ⟨hs, hkeeps⟩ := hitems schema hi
    obtain ⟨completed, rfl, hcompleted⟩ := hs.exists_elements hi hpart hkeeps hvalue
    exact stays_of_elements ht hl hi hs.isArray hcompleted

lemma keepsResults_object {keywords : Entries} (record : PlainRecord keywords)
    (hschema : (Value.object keywords).everyPart Value.isKeyed = true)
    (hproperties : ∀ d ∈ childrenOf keywords "properties",
      Value.CompletesOnce d.2 ∧ KeepsResults d.2) : KeepsResults (.object keywords) := by
  intro value hvalue hv place result hvalid
  obtain ⟨members, rfl⟩ := object_of_valid record.type hv hvalid
  have haccepted := recordAccepted_of_valid record hschema
    (fun d hd => (hproperties d hd).1.isUnion) hvalue hvalid
  obtain rfl : Value.object (keptMembers keywords members place) = result :=
    Verdict.valid.inj (Except.ok.inj (haccepted.validate_eq_kept.symm.trans hvalid))
  refine stays_of_valid (haccepted.validate_keptMembers fun d hd hr => ?_)
  obtain ⟨hs, hkeeps⟩ := hproperties d hd
  have hw : (validate d.2 (members.get d.1) (place.property "properties" d.1)).result =
      .ok (.valid (declaredVisit members place d).result) :=
    validate_of_isValid (haccepted.answers hd) (by rw [verdict_of_result hr]; rfl)
  cases hm : (members.get d.1).isUndefined with
  | true =>
    rw [Value.eq_undefined hm] at hw
    exact hs.stays_of_absent hr hw
  | false => exact hkeeps _ (Value.everyPart_of_get hvalue rfl d.1) hm _ _ hw

/-- **What a value is completed to stays as it is**, at whatever place it is put to the schema
again. Objects in the schema and in the value have keys that may be keys, all of them different. -/
theorem stays_of_result {schema : Value} (h : schema.CompletesOnce)
    (hschema : schema.everyPart Value.isKeyed = true) {value result : Value} {place : Place}
    (hvalue : value.everyPart Value.isKeyed = true) (hv : value.isUndefined = false)
    (hvalid : (validate schema value place).result = .ok (.valid result)) :
    Stays schema result := by
  have hkeeps : KeepsResults schema := by
    clear hvalid
    induction h with
    | bool b => exact keepsResults_bool b
    | scalar type_eq ne_array ne_object => exact keepsResults_scalar type_eq ne_array ne_object
    | untyped type_eq => exact keepsResults_untyped type_eq
    | array type_eq lacks items _ ih =>
      refine keepsResults_array type_eq lacks fun schema hi => ⟨items schema hi, ih schema hi ?_⟩
      exact Value.everyPart_of_get? hschema (Entries.named?_of_defined? hi)
    | object record properties _ ih =>
      refine keepsResults_object record hschema fun d hd => ⟨properties d hd, ih d hd ?_⟩
      have hkeyed := Value.everyPart_of_get? hschema (named?_of_mem_childrenOf hd)
      exact (Value.everyPart_of_entry hkeyed d hd).2
  exact hkeeps value hvalue hv place result hvalid

/-- A literal that an object meets only as long as it is not completed. -/
example :
    let schema := Value.object [(.string "type", .string "object"), (.string "const", .object []),
      (.string "properties", .object [(.string "a", .object [(.string "default", .null)])])]
    (validate schema (.object []) .start).result.toOption.any Verdict.isValid = true ∧
      (validate schema (.object [(.string "a", .null)]) .start).result.toOption.any
        Verdict.isValid = false := by
  decide +kernel

def tagKeywords : Entries :=
  [(.string "type", .string "string"), (.string "default", .string "new")]

def lampProperties : Entries :=
  [(.string "note", .object [(.string "type", .string "string")]),
    (.string "size", .object [(.string "type", .string "integer"), (.string "default", .int 1)]),
    (.string "tags", .object [(.string "type", .string "array"),
      (.string "items", .object tagKeywords)])]

def lampKeywords : Entries :=
  [(.string "type", .string "object"), (.string "required", .list [.string "tags"]),
    (.string "properties", .object lampProperties)]

/-- A lamp with a note that is refused but falsy, and a tuple of tags of which one is absent. -/
def lamp : Value :=
  .object [(.string "note", .int 0), (.string "tags", .array .tuple [.string "red", .undefined])]

lemma completesOnce_lampKeywords : (Value.object lampKeywords).CompletesOnce := by
  have htype : tagKeywords.declaredType = .one .string :=
    Entries.declaredType_of_named? (by simp [tagKeywords, JsonType.name])
  have htags := Value.CompletesOnce.scalar htype (by decide) (by decide)
    (defaultStays_of_scalar htype (by decide) (by decide) (by decide +kernel))
  refine .object ⟨by simp [lampKeywords], by decide +kernel, by decide +kernel⟩ ?_
    (defaultStays_of_none (by decide +kernel))
  have hchildren : childrenOf lampKeywords "properties" = lampProperties :=
    childrenOf_eq (by simp [Entries.children, lampKeywords, lampProperties, Value.isTruthy])
  rw [hchildren]
  simp only [lampProperties, List.forall_mem_cons]
  refine ⟨?note, ?size, ?tags, by simp⟩
  case note =>
    have htype : Entries.declaredType [(.string "type", .string "string")] = .one .string :=
      Entries.declaredType_of_named? (by simp [JsonType.name])
    exact .scalar htype (by decide) (by decide) (defaultStays_of_none (by decide +kernel))
  case size =>
    have htype : Entries.declaredType [(.string "type", .string "integer"),
        (.string "default", .int 1)] = .one .integer :=
      Entries.declaredType_of_named? (by simp [JsonType.name])
    exact .scalar htype (by decide) (by decide)
      (defaultStays_of_scalar htype (by decide) (by decide) (by decide +kernel))
  case tags =>
    refine .array (Entries.declaredType_of_named? (by simp [JsonType.name])) (by decide +kernel)
      ?_ (defaultStays_of_none (by decide +kernel))
    intro schema hs
    obtain rfl : .object tagKeywords = schema := by simpa using Entries.named?_of_defined? hs
    exact htags

theorem stays_of_result_lamp : ∃ result,
    (validate (.object lampKeywords) lamp .start).result = .ok (.valid result) ∧
      Stays (.object lampKeywords) result := by
  obtain ⟨result, hr⟩ := exists_of_isValid (show
    (validate (.object lampKeywords) lamp .start).result.toOption.any Verdict.isValid = true by
      decide +kernel)
  exact ⟨result, hr, stays_of_result completesOnce_lampKeywords (by decide +kernel)
    (by decide +kernel) rfl hr⟩

end JsonSchema
