import JsonSchema.Proofs.Keyword
import JsonSchema.Proofs.Number
import JsonSchema.Proofs.Object.Settled
import JsonSchema.Proofs.Part

/-!
Validation against a well-typed schema always has a verdict.

A schema is well-typed if every keyword holds what its role asks for, whether its node reads it or
not. Each check of a well-typed node has an answer, one lemma for each check; the verdict of a
schema follows by induction on its depth. Integers beyond the doubles are the one thing in
well-typed schemas and in values that validation can fail on.
-/

namespace JsonSchema

/-! ### Well-typed schemas -/

namespace Value

def isPattern : Value → Bool
  | string s => (Regex.Pattern.parse s).isOk
  | _ => false

mutual

/-- Whether a value is what a keyword of some role may hold. -/
def fits : Role → Value → Bool
  | .free, _ => true
  | .number, v => v.isNumber
  | .pattern, v => v.isPattern
  | .literals, v => v.isArray
  | .names, array _ names => names.all isString
  | .schema, bool _ | .items, bool _ | .keySchema, bool _ => true
  | .schema, object keywords | .items, object keywords | .keySchema, object keywords =>
    keywordsFit keywords
  | .items, array _ schemas => itemsFit schemas
  | .properties, object children => childrenFit isString children
  | .patterns, object children => childrenFit isPattern children
  | _, _ => false

def keywordsFit : List (Value × Value) → Bool
  | [] => true
  | (key, v) :: rest => fits (.ofKey key) v && keywordsFit rest

def itemsFit : List Value → Bool
  | [] => true
  | v :: rest => fits .schema v && itemsFit rest

def childrenFit (isName : Value → Bool) : List (Value × Value) → Bool
  | [] => true
  | (key, v) :: rest => isName key && fits .schema v && childrenFit isName rest

end

/-- Whether every keyword of a schema, and of all schemas in it, holds what its role asks for. -/
def isWellTyped (schema : Value) : Bool := fits .schema schema

/-- A number within the range of doubles, or no number. -/
def isInRange : Value → Bool
  | number x => x.isInRange
  | _ => true

/-- An object whose keys are strings, or no object. -/
def isStringKeyed : Value → Bool
  | object entries => entries.all fun e => e.1.isString
  | _ => true

lemma fits_pattern {v : Value} : fits .pattern v = v.isPattern := by
  cases v <;> rfl

lemma isObject_of_properties {v : Value} (h : fits .properties v = true) : v.isObject = true := by
  cases v <;> first | rfl | cases h

lemma isObject_of_patterns {v : Value} (h : fits .patterns v = true) : v.isObject = true := by
  cases v <;> first | rfl | cases h

lemma keywordsFit_iff {keywords : Entries} :
    keywordsFit keywords = true ↔ ∀ e ∈ keywords, fits (.ofKey e.1) e.2 = true := by
  induction keywords with
  | nil => simp [keywordsFit]
  | cons e rest ih =>
    obtain ⟨key, v⟩ := e
    simp [keywordsFit, ih]

lemma itemsFit_iff {schemas : List Value} :
    itemsFit schemas = true ↔ ∀ s ∈ schemas, s.isWellTyped = true := by
  induction schemas with
  | nil => simp [itemsFit]
  | cons s rest ih => simp [itemsFit, ih, isWellTyped]

lemma childrenFit_iff {isName : Value → Bool} {children : Entries} :
    childrenFit isName children = true ↔
      ∀ e ∈ children, isName e.1 = true ∧ isWellTyped e.2 = true := by
  induction children with
  | nil => simp [childrenFit]
  | cons e rest ih =>
    obtain ⟨key, v⟩ := e
    simp [childrenFit, ih, isWellTyped]

/-- A value that holds no integer beyond the doubles and no key that is no string. -/
structure IsRegular (value : Value) : Prop where
  inRange : value.everyPart isInRange = true
  stringKeyed : value.everyPart isStringKeyed = true

namespace IsRegular

lemma item {kind : ArrayKind} {items : List Value} (h : (array kind items).IsRegular) {v : Value}
    (hv : v ∈ items) : v.IsRegular :=
  ⟨everyPart_of_item h.inRange v hv, everyPart_of_item h.stringKeyed v hv⟩

lemma member {members : Entries} (h : (object members).IsRegular) {e : Value × Value}
    (he : e ∈ members) : e.2.IsRegular :=
  ⟨(everyPart_of_entry h.inRange e he).2, (everyPart_of_entry h.stringKeyed e he).2⟩

lemma get {members : Entries} (h : (object members).IsRegular) (key : Value) :
    (members.get key).IsRegular :=
  ⟨everyPart_of_get h.inRange rfl key, everyPart_of_get h.stringKeyed rfl key⟩

lemma hasStringKeys {members : Entries} (h : (object members).IsRegular) :
    members.HasStringKeys := by
  have hkeys := everyPart_self h.stringKeyed
  simpa [isStringKeyed, Entries.HasStringKeys] using hkeys

lemma string (s : Text) : (string s).IsRegular := ⟨rfl, rfl⟩

lemma hasAnswer_isFalsy {value : Value} (h : value.IsRegular) : HasAnswer value.isFalsy := by
  have hx := everyPart_self h.inRange
  cases value with
  | number x => exact ⟨_, isFalsy_of_isInRange hx⟩
  | _ => exact ⟨_, rfl⟩

end IsRegular

/-- Validation against the schema has a verdict on every regular value. -/
def Decides (schema : Value) : Prop :=
  ∀ value : Value, value.IsRegular → ∀ place, HasAnswer (validate schema value place).result

end Value

open Value

/-- The keywords of a well-typed node without integers beyond the doubles. -/
structure Entries.IsSound (keywords : Entries) : Prop where
  fits : keywordsFit keywords = true
  inRange : (object keywords).everyPart isInRange = true

namespace Entries.IsSound

variable {keywords : Entries} (h : keywords.IsSound) {name : String} {v : Value}

include h

lemma fits_named? (hv : keywords.named? name = some v) : Value.fits (.ofName name) v = true := by
  obtain ⟨key, hm, hsame⟩ := mem_of_get? hv
  obtain rfl := same_string.1 hsame
  exact keywordsFit_iff.1 h.fits _ hm

lemma inRange_named? (hv : keywords.named? name = some v) : v.everyPart isInRange = true :=
  everyPart_of_get? h.inRange hv

lemma exists_number (hrole : Role.ofName name = .number) (hv : keywords.named? name = some v) :
    ∃ x, v = .number x ∧ v.isWritable = true := by
  have hfits := h.fits_named? hv
  have hrange := everyPart_self (h.inRange_named? hv)
  rw [hrole] at hfits
  cases v with
  | number x => exact ⟨x, rfl, isWritable_of_isInRange hrange⟩
  | _ => cases hfits

/-- The schemas under names or patterns. -/
lemma child_of_role {isName : Value → Bool}
    (hrole : ∀ es, Value.fits (.ofName name) (object es) = childrenFit isName es)
    {e : Value × Value} (he : e ∈ Validation.childrenOf keywords name) :
    e.2.depth ≤ Value.depthOfEntries keywords ∧ isName e.1 = true ∧ isWellTyped e.2 = true ∧
      e.2.everyPart isInRange = true := by
  have hn := Validation.named?_of_mem_childrenOf he
  have hdepth := depth_of_get? hn
  have hlt := Value.depth_le_depthOfEntries he
  simp only [Value.depth] at hdepth
  have hfits := h.fits_named? hn
  rw [hrole, childrenFit_iff] at hfits
  have hrange := everyPart_of_entry (h.inRange_named? hn) e he
  exact ⟨by omega, (hfits e he).1, (hfits e he).2, hrange.2⟩

end Entries.IsSound

/-! ### Literals that can be written -/

namespace Value

mutual

theorem isWritable_of_everyPart : (v : Value) → v.everyPart isInRange = true → v.isWritable = true
  | number _, h => isWritable_of_isInRange (everyPart_self h)
  | array _ items, h => areWritable_of_everyItem items (everyPart_of_item h)
  | undefined, _ | null, _ | bool _, _ | string _, _ | object _, _ | date _, _ | datetime _, _
  | bytes _, _ | set _, _ => rfl

theorem areWritable_of_everyItem : (items : List Value) →
    (∀ v ∈ items, v.everyPart isInRange = true) → areWritable items = true
  | [], _ => rfl
  | v :: rest, h => by
    rw [areWritable, isWritable_of_everyPart v (h v (by simp)),
      areWritable_of_everyItem rest fun w hw => h w (by simp [hw])]
    rfl

end

mutual

theorem isJsonWritable_of_everyPart : (v : Value) → v.everyPart isInRange = true →
    v.isJsonWritable = true
  | number x, h => by
    have := isWritable_of_everyPart (number x) h
    cases x with
    | int n => exact this
    | double d => rfl
  | array _ items, h => areJsonWritable_of_everyItem items (everyPart_of_item h)
  | object entries, h => fieldsAreJsonWritable_of_everyEntry entries (everyPart_of_entry h)
  | undefined, _ | null, _ | bool _, _ | string _, _ | date _, _ | datetime _, _ | bytes _, _
  | set _, _ => rfl

theorem areJsonWritable_of_everyItem : (items : List Value) →
    (∀ v ∈ items, v.everyPart isInRange = true) → areJsonWritable items = true
  | [], _ => rfl
  | v :: rest, h => by
    rw [areJsonWritable, isJsonWritable_of_everyPart v (h v (by simp)),
      areJsonWritable_of_everyItem rest fun w hw => h w (by simp [hw])]
    rfl

theorem fieldsAreJsonWritable_of_everyEntry : (entries : List (Value × Value)) →
    (∀ e ∈ entries, everyPart isInRange e.1 = true ∧ everyPart isInRange e.2 = true) →
    fieldsAreJsonWritable entries = true
  | [], _ => rfl
  | (k, v) :: rest, h => by
    obtain ⟨hk, hv⟩ := h (k, v) (by simp)
    rw [fieldsAreJsonWritable, isWritable_of_everyPart k hk, isJsonWritable_of_everyPart v hv,
      fieldsAreJsonWritable_of_everyEntry rest fun e he => h e (by simp [he])]
    rfl

end

lemma canShow_of_everyPart (form : LiteralForm) {v : Value} (h : v.everyPart isInRange = true) :
    form.canShow v = true := by
  cases form with
  | json => exact isJsonWritable_of_everyPart v h
  | quoted | plain => exact isWritable_of_everyPart v h

end Value

/-! ### Checks of one value -/

namespace Validation

variable {keywords : Entries} {name : String}

lemma hasAnswer_reportIf {failed : Bool} {reason : Reason} (h : reason.canShow = true) :
    HasAnswer (reportIf failed reason) := by
  unfold reportIf
  rw [h]
  cases failed <;> exact ⟨_, rfl⟩

lemma named?_of_given? {v : Value} (h : keywords.given? name = some v) :
    keywords.named? name = some v := by
  simp only [Entries.given?, Option.filter_eq_some_iff] at h
  exact h.1

lemma hasAnswer_whenGiven {check : Value → Reasons}
    (h : ∀ v, keywords.named? name = some v → HasAnswer (check v)) :
    HasAnswer (whenGiven keywords name check) := by
  unfold whenGiven
  split
  · rename_i v hv
    exact h v (named?_of_given? hv)
  · exact hasAnswer_ok _

/-- A number in a keyword can be compared with, and written if the comparison fails. -/
lemma hasAnswer_compare {v : Value} (h : ∃ x, v = .number x ∧ v.isWritable = true)
    {failed : Number → Bool} {reason : Reason} (hr : reason.canShow = v.isWritable) :
    HasAnswer (do reportIf (failed (← v.comparable)) reason : Reasons) := by
  obtain ⟨x, rfl, hx⟩ := h
  exact hasAnswer_reportIf (hr.trans hx)

lemma hasAnswer_patternOccurs {pattern : Value} (h : pattern.isPattern = true) (text : Text)
    (location : Location) : HasAnswer (patternOccurs pattern text location) := by
  cases pattern with
  | string s =>
    obtain ⟨r, hr⟩ : ∃ r, Regex.Pattern.parse s = .ok r := by
      simp only [isPattern] at h
      cases hp : Regex.Pattern.parse s with
      | ok r => exact ⟨r, rfl⟩
      | error e => simp [hp, Except.isOk, Except.toBool] at h
    simp only [patternOccurs, hr]
    exact hasAnswer_ok _
  | _ => cases h

variable (h : keywords.IsSound)

include h

lemma hasAnswer_guardReasons (expected : JsonType) (form : LiteralForm) (value : Value) :
    HasAnswer (guardReasons keywords expected form value) := by
  have hconst : HasAnswer (constReasons keywords form value) := by
    unfold constReasons
    split
    · rename_i literal hl
      exact hasAnswer_reportIf
        (canShow_of_everyPart form (h.inRange_named? (Entries.named?_of_defined? hl)))
    · exact hasAnswer_ok _
  have henum : HasAnswer (enumReasons keywords form value) := by
    refine hasAnswer_whenGiven fun literals hl => ?_
    have hfits : Value.fits .literals literals = true := h.fits_named? hl
    cases literals with
    | array kind items =>
      refine hasAnswer_reportIf (List.all_eq_true.2 fun v hv => ?_)
      exact canShow_of_everyPart form (everyPart_of_item (h.inRange_named? hl) v hv)
    | _ => cases hfits
  unfold guardReasons
  refine (hasAnswer_bind_of fun _ _ => ?_).2 hconst
  exact (hasAnswer_bind_of fun _ _ => hasAnswer_pure _).2 henum

lemma hasAnswer_textReasons (text : Text) (location : Location) :
    HasAnswer (textReasons keywords text location) := by
  have hshort : HasAnswer (minLengthReasons keywords text) :=
    hasAnswer_whenGiven fun v hv => hasAnswer_compare (h.exists_number rfl hv) rfl
  have hlong : HasAnswer (maxLengthReasons keywords text) :=
    hasAnswer_whenGiven fun v hv => hasAnswer_compare (h.exists_number rfl hv) rfl
  have hpattern : HasAnswer (patternReasons keywords text location) := by
    refine hasAnswer_whenGiven fun v hv => ?_
    refine (hasAnswer_bind_of fun _ _ => hasAnswer_reportIf rfl).2 ?_
    exact hasAnswer_patternOccurs (fits_pattern ▸ h.fits_named? hv) _ _
  unfold textReasons
  refine (hasAnswer_bind_of fun _ _ => ?_).2 hshort
  refine (hasAnswer_bind_of fun _ _ => ?_).2 hlong
  exact (hasAnswer_bind_of fun _ _ => hasAnswer_pure _).2 hpattern

lemma hasAnswer_stringReasons (value : Value) (location : Location) :
    HasAnswer (stringReasons keywords value location) := by
  unfold stringReasons
  refine (hasAnswer_bind_of fun _ _ => ?_).2 (hasAnswer_guardReasons h _ _ _)
  split
  · exact (hasAnswer_bind_of fun _ _ => hasAnswer_pure _).2 (hasAnswer_textReasons h _ _)
  · exact hasAnswer_pure _

lemma hasAnswer_magnitudeReasons (x : Number) : HasAnswer (magnitudeReasons keywords x) := by
  have hbound : ∀ bound : Bound, HasAnswer (boundReasons keywords x bound) := by
    intro bound
    have hrole : Role.ofName bound.keyword = .number := by cases bound <;> rfl
    exact hasAnswer_whenGiven fun v hv => hasAnswer_compare (h.exists_number hrole hv) rfl
  have hmultiple : HasAnswer (multipleReasons keywords x) := by
    refine hasAnswer_whenGiven fun v hv => ?_
    obtain ⟨d, rfl, hd⟩ := h.exists_number rfl hv
    exact hasAnswer_reportIf hd
  unfold magnitudeReasons
  refine (hasAnswer_bind_of fun _ _ => ?_).2 (hbound _)
  refine (hasAnswer_bind_of fun _ _ => ?_).2 (hbound _)
  refine (hasAnswer_bind_of fun _ _ => ?_).2 (hbound _)
  refine (hasAnswer_bind_of fun _ _ => ?_).2 (hbound _)
  exact (hasAnswer_bind_of fun _ _ => hasAnswer_pure _).2 hmultiple

lemma hasAnswer_numberReasons (value : Value) : HasAnswer (numberReasons keywords value) := by
  unfold numberReasons
  refine (hasAnswer_bind_of fun _ _ => ?_).2 (hasAnswer_guardReasons h _ _ _)
  split
  · exact (hasAnswer_bind_of fun _ _ => hasAnswer_pure _).2 (hasAnswer_magnitudeReasons h _)
  · exact hasAnswer_pure _

lemma hasAnswer_integerReasons (value : Value) : HasAnswer (integerReasons keywords value) := by
  unfold integerReasons
  refine (hasAnswer_bind_of fun _ _ => ?_).2 (hasAnswer_numberReasons h _)
  split <;> exact hasAnswer_pure _

/-! ### Checks of members -/

lemma hasAnswer_requiredReasons {members : Entries} (hs : members.HasStringKeys) :
    HasAnswer (requiredReasons keywords members) := by
  unfold requiredReasons
  split
  · exact hasAnswer_ok _
  · rename_i names hn
    have hfits := h.fits_named? (Option.filter_eq_some_iff.1 hn).1
    cases names with
    | array kind items =>
      refine hasAnswer_bind.2 ⟨items, rfl, (hasAnswer_missing_iff hs).2 ?_⟩
      exact List.all_eq_true.1 hfits
    | _ => cases hfits

lemma hasAnswer_minCountReasons (members : Entries) :
    HasAnswer (minCountReasons keywords members) := by
  unfold minCountReasons
  split
  · exact hasAnswer_ok _
  · rename_i bound hb
    exact hasAnswer_compare (h.exists_number rfl (Option.filter_eq_some_iff.1 hb).1) rfl

lemma hasAnswer_maxCountReasons (members : Entries) :
    HasAnswer (maxCountReasons keywords members) :=
  hasAnswer_whenGiven fun _ hv => hasAnswer_compare (h.exists_number rfl hv) rfl

lemma hasAnswer_children (hrole : ∀ v, Value.fits (.ofName name) v = true → v.isObject = true) :
    HasAnswer (keywords.children name) := by
  unfold Entries.children
  split
  · exact hasAnswer_ok _
  · rename_i v hv
    have hobject := hrole v (h.fits_named? hv)
    cases v with
    | object members => split <;> exact hasAnswer_ok _
    | _ => cases hobject

/-! ### Nodes -/

/-- Validation against the well-typed schemas below a node has verdicts. -/
def DecidesBelow (keywords : Entries) : Prop :=
  ∀ child : Value, child.depth ≤ Value.depthOfEntries keywords → child.isWellTyped = true →
    child.everyPart isInRange = true → child.Decides

omit h in
lemma hasAnswer_listVerdicts {schema : Value} {place : Place} {index : Nat} {items : List Value}
    (hi : ∀ item ∈ items, ∀ place, HasAnswer (validate schema item place).result) :
    HasAnswer (listVerdicts validate schema place index items).result := by
  induction items generalizing index with
  | nil => exact hasAnswer_ok _
  | cons item rest ih =>
    refine Outcome.hasAnswer_bind_of_hasAnswer (hi item (by simp) _) fun _ _ => ?_
    refine Outcome.hasAnswer_bind_of_hasAnswer (ih fun w hw => hi w (by simp [hw])) fun _ _ => ?_
    exact hasAnswer_ok _

omit h in
lemma hasAnswer_tupleVerdicts {schemas items : List Value} {place : Place} {index : Nat}
    (hi : ∀ schema ∈ schemas, ∀ item ∈ items, ∀ place,
      HasAnswer (validate schema item place).result) :
    HasAnswer (tupleVerdicts validate place index schemas items).result := by
  induction schemas generalizing index items with
  | nil => cases items <;> exact hasAnswer_ok _
  | cons schema schemas ih =>
    cases items with
    | nil => exact hasAnswer_ok _
    | cons item rest =>
      refine Outcome.hasAnswer_bind_of_hasAnswer (hi schema (by simp) item (by simp) _)
        fun _ _ => ?_
      refine Outcome.hasAnswer_bind_of_hasAnswer
        (ih fun s hs w hw => hi s (by simp [hs]) w (by simp [hw])) fun _ _ => ?_
      exact hasAnswer_ok _

variable (hbelow : DecidesBelow keywords)

include hbelow

lemma decides_of_defined? {schema : Value} (hrole : Role.ofName name = .schema ∨
    Role.ofName name = .keySchema) (hd : keywords.defined? name = some schema) :
    schema.Decides := by
  have hn := Entries.named?_of_defined? hd
  have hfits := h.fits_named? hn
  refine hbelow schema (Entries.depth_of_get? hn) ?_ (h.inRange_named? hn)
  rcases hrole with hr | hr
  · rwa [hr] at hfits
  · rw [hr] at hfits
    cases schema with
    | bool b => rfl
    | object entries => exact hfits
    | _ => cases hfits

lemma hasAnswer_elementsPart {kind : ArrayKind} {items : List Value} (value : Value)
    (place : Place) (hv : (array kind items).IsRegular) :
    HasAnswer (elementsPart validate keywords items value place).result := by
  cases hd : keywords.defined? "items" with
  | none =>
    rw [elementsPart_of_none hd]
    exact hasAnswer_ok _
  | some schema =>
    have hn := Entries.named?_of_defined? hd
    have hdepth := Entries.depth_of_get? hn
    have hfits : Value.fits .items schema = true := h.fits_named? hn
    have hrange := h.inRange_named? hn
    have hone : schema.isArray = false → schema.isWellTyped = true →
        HasAnswer (elementsPart validate keywords items value place).result := by
      intro hs hw
      rw [elementsPart_of_one hd hs]
      refine Outcome.hasAnswer_bind_of_hasAnswer ?_ fun _ _ => hasAnswer_ok _
      exact hasAnswer_listVerdicts fun item hi => hbelow schema hdepth hw hrange item (hv.item hi)
    cases schema with
    | array kind' schemas =>
      rw [elementsPart_of_tuple hd]
      split
      · exact hasAnswer_ok _
      · refine Outcome.hasAnswer_bind_of_hasAnswer ?_ fun _ _ => hasAnswer_ok _
        refine hasAnswer_tupleVerdicts fun s hs item hi => ?_
        have hlt := depth_le_depthOfItems hs
        simp only [depth] at hdepth
        exact hbelow s (by omega) (itemsFit_iff.1 hfits s hs) (everyPart_of_item hrange s hs) item
          (hv.item hi)
    | bool b => exact hone rfl rfl
    | object entries => exact hone rfl hfits
    | _ => cases hfits

lemma hasAnswer_validateArray {value : Value} (hv : value.IsRegular) (place : Place) :
    HasAnswer (validateArray validate keywords value place).result := by
  unfold validateArray
  refine Outcome.hasAnswer_bind_of_hasAnswer (hasAnswer_guardReasons h _ _ _) fun _ _ => ?_
  split
  · refine Outcome.hasAnswer_bind_of_hasAnswer (hasAnswer_elementsPart h hbelow _ _ hv) ?_
    exact fun _ _ => hasAnswer_ok _
  · exact hasAnswer_ok _

lemma objectSettles_of_isSound {members : Entries} (hm : (object members).IsRegular)
    (place : Place) : ObjectSettles keywords members place where
  guard := hasAnswer_guardReasons h _ _ _
  required := hasAnswer_requiredReasons h hm.hasStringKeys
  properties := hasAnswer_children h fun _ => isObject_of_properties
  patterns := hasAnswer_children h fun _ => isObject_of_patterns
  fewer := hasAnswer_minCountReasons h members
  more := hasAnswer_maxCountReasons h members
  declared := by
    intro v hv
    obtain ⟨e, he, rfl⟩ := List.mem_map.1 hv
    obtain ⟨hdepth, -, hw, hr⟩ := h.child_of_role (fun _ => rfl) he
    exact ⟨hbelow e.2 hdepth hw hr _ (hm.get e.1) _, .inr (hm.get e.1).hasAnswer_isFalsy⟩
  matching := by
    intro p hp e he
    obtain ⟨hdepth, hpattern, hw, hr⟩ := h.child_of_role (fun _ => rfl) hp
    exact ⟨hasAnswer_patternOccurs hpattern _ _,
      fun _ => hbelow p.2 hdepth hw hr _ (hm.member he) _⟩
  additional := by
    refine .inr fun v hv => ?_
    obtain ⟨e, he, rfl⟩ := List.mem_map.1 hv
    have hmember := hm.member (mem_extras.1 he).1
    refine ⟨?_, .inr hmember.hasAnswer_isFalsy⟩
    cases hd : keywords.defined? "additionalProperties" with
    | none =>
      refine answers_of_bool (show additionalSchema keywords = .bool true from ?_)
      simp [additionalSchema, hd]
    | some schema =>
      have hschema : additionalSchema keywords = schema := by simp [additionalSchema, hd]
      show HasAnswer (validate (additionalSchema keywords) e.2 _).result
      rw [hschema]
      exact decides_of_defined? h hbelow (.inl rfl) hd e.2 hmember _
  names := by
    intro schema hd e he
    have hschema := decides_of_defined? h hbelow (.inr rfl) hd
    cases schema with
    | object entries =>
      have hn := Entries.named?_of_defined? hd
      have hsound : Entries.IsSound entries := ⟨h.fits_named? hn, h.inRange_named? hn⟩
      refine Outcome.hasAnswer_bind_of_hasAnswer ?_ fun _ _ => hasAnswer_ok _
      exact hasAnswer_stringReasons hsound _ _
    | _ => exact hschema _ (.string _) _

lemma hasAnswer_validateTyped (type : JsonType)
    (ht : keywords.named? "type" = some (.string type.name)) {value : Value}
    (hv : value.IsRegular) (place : Place) :
    HasAnswer (validateTyped validate type keywords value place).result := by
  have hscalar : ∀ reasons : Reasons, HasAnswer reasons →
      HasAnswer (scalarVerdict keywords value place reasons).result :=
    fun _ hr => Outcome.hasAnswer_bind_of_hasAnswer hr fun _ _ => hasAnswer_ok _
  cases type with
  | string => exact hscalar _ (hasAnswer_stringReasons h _ _)
  | number => exact hscalar _ (hasAnswer_numberReasons h _)
  | integer => exact hscalar _ (hasAnswer_integerReasons h _)
  | boolean | null => exact hscalar _ (hasAnswer_ok _)
  | array => exact hasAnswer_validateArray h hbelow hv place
  | object =>
    cases value with
    | object members =>
      have hsettles := objectSettles_of_isSound h hbelow hv place
      have hverdict := (hasAnswer_validate_object ht hv.hasStringKeys.clear).2 hsettles
      rwa [validate_object ht rfl] at hverdict
    | _ =>
      refine Outcome.hasAnswer_bind_of_hasAnswer (hasAnswer_guardReasons h _ _ _) fun _ _ => ?_
      exact hasAnswer_ok _

end Validation

/-! ### Schemas -/

open Validation

namespace Value

/-- By induction on the depth of the schema: the schemas below a node have verdicts, and so do its
own checks. -/
theorem decides_of_isWellTyped {schema : Value} (hw : schema.isWellTyped = true)
    (hr : schema.everyPart isInRange = true) : schema.Decides := by
  induction hd : schema.depth using Nat.strongRecOn generalizing schema with
  | _ n ih =>
    intro value hv place
    cases schema with
    | bool b => cases b <;> simp
    | object keywords =>
      have hsound : Entries.IsSound keywords := ⟨hw, hr⟩
      have hbelow : DecidesBelow keywords := by
        intro child hc hw hr
        simp only [depth] at hd
        exact ih child.depth (by omega) hw hr rfl
      rw [validate_keywords, validateKeywords_eq]
      split
      · exact hasAnswer_ok _
      · cases ht : Entries.declaredType keywords with
        | one type =>
          have hn := Entries.named?_of_declaredType ht
          exact hasAnswer_validateTyped hsound hbelow type hn hv place
        | union types => exact hasAnswer_ok _
        | unknown => exact hasAnswer_ok _
    | _ => cases hw

/-- **Validation against a well-typed schema has a verdict**, whatever types the value has where:
provided that no integer in the schema or in the value is larger than the largest double, and that
the keys of objects in the value are strings. -/
theorem exists_verdict_of_isWellTyped {schema value : Value} (hw : schema.isWellTyped = true)
    (hr : schema.everyPart isInRange = true) (hv : value.IsRegular) (place : Place) :
    ∃ verdict, (validate schema value place).result = .ok verdict :=
  decides_of_isWellTyped hw hr value hv place

/-- Bounds that are no bounds, a divisor of zero, a pattern, and values of the wrong types. -/
theorem exists_verdict_of_odd_bounds :
    ∃ verdict, (validate
      (.object [(.string "type", .string "object"),
        (.string "required", .list [.string "size", .string "name"]),
        (.string "properties", .object [
          (.string "size", .object [(.string "type", .string "integer"),
            (.string "minimum", .double .nan), (.string "maximum", .double (.infinite false)),
            (.string "multipleOf", .int 0)]),
          (.string "name", .object [(.string "type", .string "string"),
            (.string "pattern", .string "^[a-z]+$"),
            (.string "minLength", .double (.infinite true))])]),
        (.string "patternProperties", .object [(.string "s", .bool true)]),
        (.string "propertyNames", .object [(.string "maxLength", .int 4)])])
      (.object [(.string "name", .array .tuple [.undefined, .double .nan]),
        (.string "size", .int 1000000000000000000000000)])
      .start).result = .ok verdict :=
  exists_verdict_of_isWellTyped (by decide +kernel) (by decide +kernel)
    ⟨by decide +kernel, by decide +kernel⟩ .start

end Value

end JsonSchema
