import JsonSchema.Proofs.Defects
import JsonSchema.Proofs.Erasure
import JsonSchema.Proofs.WellTyped

/-!
Schemas whose keywords can be applied.

A keyword can be applied if its check has a meaning for what it holds: a bound for a number, a list
of names for a list of strings. This leaves open what stands where a schema should, and whether a
pattern can be read; both are told as defects. Main statement: validation against such a schema
fails in two ways only, with a defect or over an integer that is beyond the doubles.

The faults of each check are gone through one after the other; the run follows by induction on the
depth of the schema.
-/

namespace JsonSchema

open Validation

/-! ### Applicable schemas -/

namespace Value

/-- A pattern that can be read, or of which it is told why it cannot. -/
def isTellable (pattern : Value) : Bool := pattern.isPattern || pattern.brokenCause?.isSome

/-- Whether a keyword can be applied that holds no schemas here. Null stands for no keyword, and
where members are looked for so does everything empty. -/
def appliesAlone : Role → Value → Bool
  | .number, v => v.isNull || v.asNumber?.isSome
  | .pattern, v => v.isNull || v.isTellable
  | .literals, v => v.isNull || v.elements.isOk
  | .names, v => !v.isTruthy || v.elements.toOption.any fun names => names.all isString
  | .properties, v | .patterns, v => !v.isTruthy
  | _, _ => true

mutual

/-- Whether a keyword of some role can be applied with what it holds, and all that is applied in
the schemas there. Anything may stand for a schema. -/
def applies : Role → Value → Bool
  | .schema, object keywords | .items, object keywords =>
    keywordsApply (Entries.appliedNames keywords) keywords
  | .keySchema, object keywords => keywordsApply textKeywords keywords
  | .items, array _ schemas => itemsApply schemas
  | .properties, object children => childrenApply (fun _ => true) children
  | .patterns, object children => childrenApply isTellable children
  | role, v => appliesAlone role v

def keywordsApply (names : List String) : List (Value × Value) → Bool
  | [] => true
  | (key, v) :: rest => (!isAmong names key || applies (.ofKey key) v) && keywordsApply names rest

def itemsApply : List Value → Bool
  | [] => true
  | v :: rest => applies .schema v && itemsApply rest

def childrenApply (isName : Value → Bool) : List (Value × Value) → Bool
  | [] => true
  | (key, v) :: rest => isName key && applies .schema v && childrenApply isName rest

end

/-- Whether every keyword that validation applies, in a schema and in all schemas in it, holds what
it can be applied with. -/
def isApplicable (schema : Value) : Bool := applies .schema schema

lemma keywordsApply_iff {names : List String} {keywords : Entries} :
    keywordsApply names keywords = true ↔
      ∀ e ∈ keywords, isAmong names e.1 = true → applies (.ofKey e.1) e.2 = true := by
  induction keywords with
  | nil => simp [keywordsApply]
  | cons e rest ih =>
    obtain ⟨key, v⟩ := e
    cases h : isAmong names key <;> simp [keywordsApply, ih, h]

lemma itemsApply_iff {schemas : List Value} :
    itemsApply schemas = true ↔ ∀ s ∈ schemas, s.isApplicable = true := by
  induction schemas with
  | nil => simp [itemsApply]
  | cons s rest ih => simp [itemsApply, ih, isApplicable]

lemma childrenApply_iff {isName : Value → Bool} {children : Entries} :
    childrenApply isName children = true ↔
      ∀ e ∈ children, isName e.1 = true ∧ isApplicable e.2 = true := by
  induction children with
  | nil => simp [childrenApply]
  | cons e rest ih =>
    obtain ⟨key, v⟩ := e
    simp [childrenApply, ih, isApplicable]

/-- Members are looked for in objects, and in what is empty. -/
lemma isObject_or_isEmpty {role : Role} (hrole : role = .properties ∨ role = .patterns) {v : Value}
    (h : applies role v = true) : v.isObject = true ∨ v.isTruthy = false := by
  rcases hrole with rfl | rfl <;> cases v <;> simp_all [applies, appliesAlone, isObject]

lemma isApplicable_of_items {v : Value} (h : applies .items v = true) (hv : v.isArray = false) :
    v.isApplicable = true := by
  cases v with
  | array => cases hv
  | object entries => exact h
  | _ => rfl

lemma isApplicable_of_not_object {v : Value} (h : v.isObject = false) : v.isApplicable = true := by
  cases v with
  | object => cases h
  | _ => rfl

lemma lt_ten_pow_of_lt {n limit : Nat} (h : n < 256) (hl : 3 ≤ limit) : n < Nat.pow 10 limit :=
  calc n < 10 ^ 3 := by omega
    _ ≤ 10 ^ limit := Nat.pow_le_pow_right (by decide) hl

/-- The elements of a value can be written where its integers are not beyond the doubles. -/
lemma canShow_elements (form : LiteralForm) {v : Value} (h : v.everyPart isInRange = true)
    {items : List Value} (hv : v.elements = .ok items) : ∀ w ∈ items, form.canShow w = true := by
  cases v with
  | array kind elements =>
    cases hv
    exact fun w hw => canShow_of_everyPart form (everyPart_of_item h w hw)
  | string s =>
    cases hv
    rintro w hw
    obtain ⟨c, -, rfl⟩ := List.mem_map.1 hw
    exact canShow_of_everyPart form rfl
  | object entries =>
    cases hv
    rintro w hw
    obtain ⟨e, he, rfl⟩ := List.mem_map.1 hw
    exact canShow_of_everyPart form (everyPart_of_entry h e he).1
  | bytes bs =>
    cases hv
    rintro w hw
    obtain ⟨b, -, rfl⟩ := List.mem_map.1 hw
    have hb : withinDigitLimit b.toNat = true :=
      decide_eq_true (@lt_ten_pow_of_lt b.toNat digitLimit b.toNat_lt (by decide))
    cases form <;> exact hb
  | set members =>
    cases hv
    simp only [everyPart, Bool.and_eq_true, everyItem_iff] at h
    exact fun w hw => canShow_of_everyPart form (h.2 w hw)
  | _ => cases hv

end Value

open Value

/-- The keywords of a node under some names can be applied. Where all integers are small, they hold
small ones only. -/
structure Entries.Applicable (small : Prop) (names : List String) (keywords : Entries) : Prop where
  applies : keywordsApply names keywords = true
  inRange : small → (object keywords).everyPart isInRange = true

namespace Entries.Applicable

variable {small : Prop} {names : List String} {keywords : Entries}
  (h : keywords.Applicable small names) {name : String} {v : Value}

include h

lemma applies_named? (hname : name ∈ names) (hv : keywords.named? name = some v) :
    Value.applies (.ofName name) v = true := by
  obtain ⟨key, hm, hsame⟩ := mem_of_get? hv
  obtain rfl := same_string.1 hsame
  exact keywordsApply_iff.1 h.applies _ hm (by simpa using hname)

lemma inRange_named? (hv : keywords.named? name = some v) (hsmall : small) :
    v.everyPart isInRange = true :=
  everyPart_of_get? (h.inRange hsmall) hv

end Entries.Applicable

/-! ### Told faults -/

/-- A fault that is told as a defect, or is due to an integer that is not small. -/
def Fault.IsTold (small : Prop) : Fault → Prop
  | .schema _ _ => True
  | .tooLarge | .tooManyDigits => ¬small
  | _ => False

/-- A computation fails with told faults only. -/
abbrev Told {α : Type} (small : Prop) (x : Except Fault α) : Prop :=
  FaultsAre (Fault.IsTold small) x

lemma told_defect {α : Type} {small : Prop} (defect : SchemaDefect) (location : Location) :
    Told small (.error (.schema defect location) : Except Fault α) := by
  rintro _ ⟨⟩
  trivial

lemma told_of_hasAnswer {α : Type} {small : Prop} {x : Except Fault α} (h : HasAnswer x) :
    Told small x := by
  obtain ⟨a, rfl⟩ := h
  exact .ok a

namespace Validation

variable {small : Prop} {keywords : Entries} {names : List String}

lemma told_reportIf {failed : Bool} {reason : Reason} (h : small → reason.canShow = true) :
    Told small (reportIf failed reason) := by
  unfold reportIf
  split
  · split
    · exact .ok _
    · exact .error fun hsmall => absurd (h hsmall) ‹_›
  · exact .ok _

lemma told_whenGiven {name : String} {check : Value → Reasons}
    (h : ∀ v, keywords.named? name = some v → v.isNull = false → Told small (check v)) :
    Told small (whenGiven keywords name check) := by
  unfold whenGiven
  split
  · rename_i v hv
    obtain ⟨hn, hnull⟩ := Option.filter_eq_some_iff.1 hv
    exact h v hn (by simpa using hnull)
  · exact .ok _

/-- A comparison with a number, and the reason that shows it. -/
lemma told_compare {v : Value} (hv : v.asNumber?.isSome = true)
    (hr : small → v.everyPart isInRange = true) {failed : Number → Bool} {reason : Reason}
    (hreason : reason.canShow = v.isWritable) :
    Told small (do reportIf (failed (← v.comparable)) reason : Reasons) := by
  obtain ⟨x, hx⟩ := Option.isSome_iff_exists.1 hv
  refine .bind ?_ fun _ => told_reportIf fun hsmall => ?_
  · unfold Value.comparable
    rw [hx]
    exact .ok _
  · rw [hreason]
    exact isWritable_of_everyPart v (hr hsmall)

lemma told_patternOccurs {pattern : Value} (h : pattern.isTellable = true) (text : Text)
    (location : Location) : Told small (patternOccurs pattern text location) := by
  cases hp : pattern.isPattern with
  | true => exact told_of_hasAnswer (hasAnswer_patternOccurs hp text location)
  | false =>
    have hbroken : pattern.brokenCause?.isSome = true := by simpa [isTellable, hp] using h
    unfold patternOccurs
    cases pattern with
    | string s =>
      cases hs : Regex.Pattern.parse s with
      | ok r => simp [isPattern, hs, Except.isOk, Except.toBool] at hp
      | error e =>
        simp only [brokenCause?, hs] at hbroken
        cases e with
        | malformed =>
          simp only [hs]
          exact told_defect _ _
        | _ => cases hbroken
    | bytes bs =>
      simp only [brokenCause?] at hbroken
      simp only [bytesPattern]
      split
      · rename_i e he
        split
        · exact told_defect _ _
        · rename_i hnone
          simp [he, hnone] at hbroken
      · rename_i r hr
        simp [hr] at hbroken
    | _ => cases hbroken

variable (h : keywords.Applicable small names)

include h

/-- A number under a keyword. -/
lemma number_of_role {name : String} {v : Value} (hname : name ∈ names)
    (hrole : Role.ofName name = .number) (hn : keywords.named? name = some v)
    (hnull : v.isNull = false) : v.asNumber?.isSome = true := by
  have happly := h.applies_named? hname hn
  rw [hrole] at happly
  cases v <;> simp_all [Value.applies, appliesAlone]

lemma told_guardReasons (henum : "enum" ∈ names) (expected : JsonType) (form : LiteralForm)
    (value : Value) : Told small (guardReasons keywords expected form value) := by
  refine .bind ?const fun _ => .bind ?enum fun _ => .ok _
  case const =>
    unfold constReasons
    split
    · rename_i literal hl
      have hn := Entries.named?_of_defined? hl
      exact told_reportIf fun hsmall => canShow_of_everyPart form (h.inRange_named? hn hsmall)
    · exact .ok _
  case enum =>
    refine told_whenGiven fun literals hn hnull => ?_
    have hok : literals.elements.isOk = true := by
      have happly : Value.applies .literals literals = true := h.applies_named? henum hn
      cases literals <;> simp_all [Value.applies, appliesAlone]
    obtain ⟨items, hitems⟩ := exists_of_isOk hok
    rw [hitems]
    refine told_reportIf fun hsmall => List.all_eq_true.2 ?_
    exact canShow_elements form (h.inRange_named? hn hsmall) hitems

/-- The check of a keyword that is compared with. -/
lemma told_comparison {name : String} (hname : name ∈ names) (hrole : Role.ofName name = .number)
    {failed : Number → Bool} {reason : Value → Reason}
    (hreason : ∀ v, (reason v).canShow = v.isWritable) :
    Told small (whenGiven keywords name fun v => do
      reportIf (failed (← v.comparable)) (reason v)) := by
  refine told_whenGiven fun v hn hnull => ?_
  exact told_compare (number_of_role h hname hrole hn hnull) (h.inRange_named? hn) (hreason v)

lemma told_multipleReasons (x : Number) (hname : "multipleOf" ∈ names) :
    Told small (multipleReasons keywords x) := by
  refine told_whenGiven fun v hn hnull => ?_
  obtain ⟨d, hd⟩ := Option.isSome_iff_exists.1 (number_of_role h hname rfl hn hnull)
  rw [hd]
  exact told_reportIf fun hsmall => isWritable_of_everyPart v (h.inRange_named? hn hsmall)

lemma told_numberReasons (hnames : ∀ name ∈ JsonType.number.keywords, name ∈ names)
    (value : Value) : Told small (numberReasons keywords value) := by
  refine .bind (told_guardReasons h (hnames _ (by simp [JsonType.keywords])) _ _ _) fun _ => ?_
  split
  · refine .bind ?_ fun _ => .ok _
    have hbound : ∀ x, ∀ bound : Bound, Told small (boundReasons keywords x bound) :=
      fun x bound => told_comparison h (hnames _ (by cases bound <;> decide))
        (by cases bound <;> rfl) fun _ => rfl
    exact .bind (hbound _ _) fun _ => .bind (hbound _ _) fun _ => .bind (hbound _ _) fun _ =>
      .bind (hbound _ _) fun _ =>
      .bind (told_multipleReasons h _ (hnames _ (by simp [JsonType.keywords]))) fun _ => .ok _
  · exact .ok _

lemma told_integerReasons (hnames : ∀ name ∈ JsonType.number.keywords, name ∈ names)
    (value : Value) : Told small (integerReasons keywords value) := by
  refine .bind (told_numberReasons h hnames value) fun _ => ?_
  split <;> exact .ok _

lemma told_stringReasons (hnames : ∀ name ∈ textKeywords, name ∈ names) (value : Value)
    (location : Location) : Told small (stringReasons keywords value location) := by
  have hpattern : ∀ text, Told small (patternReasons keywords text location) := by
    refine fun text => told_whenGiven fun v hn hnull => ?_
    have happly : Value.applies .pattern v = true :=
      h.applies_named? (hnames _ (by simp [textKeywords])) hn
    have htell : v.isTellable = true := by
      cases v <;> simp_all [Value.applies, appliesAlone]
    exact .bind (told_patternOccurs htell text _) fun _ => told_reportIf fun _ => rfl
  refine .bind (told_guardReasons h (hnames _ (by simp [textKeywords])) _ _ _) fun _ => ?_
  split
  · refine .bind ?_ fun _ => .ok _
    exact .bind (told_comparison h (hnames "minLength" (by decide)) rfl fun _ => rfl) fun _ =>
      .bind (told_comparison h (hnames "maxLength" (by decide)) rfl fun _ => rfl) fun _ =>
      .bind (hpattern _) fun _ => .ok _
  · exact .ok _

/-! ### Checks of members -/

lemma told_requiredReasons (hname : "required" ∈ names) (members : Entries) :
    Told small (requiredReasons keywords members) := by
  unfold requiredReasons
  split
  · exact .ok _
  · rename_i v hv
    obtain ⟨hn, htruthy⟩ := Option.filter_eq_some_iff.1 hv
    have happly : Value.applies .names v = true := h.applies_named? hname hn
    have hstrings : v.elements.toOption.any (fun names => names.all isString) = true := by
      cases v <;> simp_all [Value.applies, appliesAlone]
    obtain ⟨required, hrequired, hall⟩ := exists_of_any hstrings
    refine told_of_hasAnswer (hasAnswer_bind.2 ⟨required, hrequired, ?_⟩)
    exact hasAnswer_missingReasons members (List.all_eq_true.1 hall)

lemma told_minCountReasons (hname : "minProperties" ∈ names) (members : Entries) :
    Told small (minCountReasons keywords members) := by
  unfold minCountReasons
  split
  · exact .ok _
  · rename_i v hv
    obtain ⟨hn, htruthy⟩ := Option.filter_eq_some_iff.1 hv
    have hnull : v.isNull = false := by cases v <;> first | rfl | cases htruthy
    exact told_compare (number_of_role h hname rfl hn hnull) (h.inRange_named? hn) rfl

lemma told_maxCountReasons (hname : "maxProperties" ∈ names) (members : Entries) :
    Told small (maxCountReasons keywords members) :=
  told_comparison h hname rfl fun _ => rfl

omit h in
/-- A member is passed over unless it is a number that is not small. -/
lemma told_isSuppressed {member : Value} (hm : small → member.everyPart isInRange = true)
    (verdict : Verdict) : Told small (isSuppressed member verdict) := by
  unfold isSuppressed
  split
  · exact .ok _
  · cases member with
    | number x =>
      rintro fault hfault
      obtain rfl : fault = .tooLarge := by
        unfold isFalsy at hfault
        repeat' split at hfault
        all_goals cases hfault
        all_goals rfl
      intro hsmall
      rw [isFalsy_of_isInRange (everyPart_self (hm hsmall))] at hfault
      cases hfault
    | _ => exact .ok _

lemma told_children {name : String} (hname : name ∈ names)
    (hrole : Role.ofName name = .properties ∨ Role.ofName name = .patterns) :
    Told small (keywords.children name) := by
  unfold Entries.children
  split
  · exact .ok _
  · rename_i v hn
    have happly := h.applies_named? hname hn
    split
    · exact .ok _
    · rename_i htruthy
      rcases isObject_or_isEmpty hrole happly with hobject | hempty
      · cases v with
        | object members => exact .ok _
        | _ => cases hobject
      · simp [hempty] at htruthy

end Validation

/-! ### Nodes -/

/-- Validation of a value against a schema has told faults only, if the value holds small integers
where all are small. -/
def Value.FailsTold (small : Prop) (schema : Value) : Prop :=
  ∀ value : Value, (small → value.everyPart isInRange = true) → ∀ place,
    Told small (validate schema value place).result

namespace Validation

variable {small : Prop} {keywords : Entries} {place : Place}

/-- The applicable schemas below a node have told faults only. -/
def FailsToldBelow (small : Prop) (keywords : Entries) : Prop :=
  ∀ child : Value, child.depth ≤ Value.depthOfEntries keywords → child.isApplicable = true →
    (small → child.everyPart isInRange = true) → child.FailsTold small

section

variable {names : List String} (h : keywords.Applicable small names)
  (hbelow : FailsToldBelow small keywords)

include h hbelow

/-- A schema that stands under a keyword by itself. -/
lemma failsTold_named? {name : String} {schema : Value}
    (happly : schema.isApplicable = true) (hn : keywords.named? name = some schema) :
    schema.FailsTold small :=
  hbelow schema (Entries.depth_of_get? hn) happly (h.inRange_named? hn)

/-- The schemas under names or patterns. -/
lemma failsTold_child {name : String} (hname : name ∈ names) {isName : Value → Bool}
    (hrole : ∀ es, Value.applies (.ofName name) (.object es) = childrenApply isName es)
    {e : Value × Value} (he : e ∈ childrenOf keywords name) :
    isName e.1 = true ∧ e.2.FailsTold small := by
  have hn := named?_of_mem_childrenOf he
  have hdepth := Entries.depth_of_get? hn
  have hlt := Value.depth_le_depthOfEntries he
  simp only [Value.depth] at hdepth
  have happly := h.applies_named? hname hn
  rw [hrole, childrenApply_iff] at happly
  exact ⟨(happly e he).1, hbelow e.2 (by omega) (happly e he).2 fun hsmall =>
    (everyPart_of_entry (h.inRange_named? hn hsmall) e he).2⟩

lemma told_elementsPart (hname : "items" ∈ names) {kind : ArrayKind} {items : List Value}
    (hi : small → (Value.array kind items).everyPart isInRange = true) (value : Value) :
    Told small (elementsPart validate keywords items value place).result := by
  have hitem : ∀ item ∈ items, small → item.everyPart isInRange = true :=
    fun item hm hsmall => everyPart_of_item (hi hsmall) item hm
  unfold elementsPart
  split
  · exact .pure _
  · rename_i kind' schemas hd
    have hn := Entries.named?_of_defined? hd
    have happly : itemsApply schemas = true := h.applies_named? hname hn
    split
    · exact .pure _
    · refine .andThen (faultsAre_tupleVerdicts fun schema i hs item hm => ?_) fun _ => .pure _
      have hs := List.mem_of_getElem? hs
      have hdepth := Entries.depth_of_get? hn
      have hlt := Value.depth_le_depthOfItems hs
      simp only [Value.depth] at hdepth
      exact hbelow schema (by omega) (itemsApply_iff.1 happly schema hs)
        (fun hsmall => everyPart_of_item (h.inRange_named? hn hsmall) schema hs) item
        (hitem item hm) _
  · rename_i schema hlist hd
    have hn := Entries.named?_of_defined? hd
    have hone : schema.isArray = false := by
      cases schema with
      | array kind schemas => exact (hlist kind schemas rfl).elim
      | _ => rfl
    have happly := isApplicable_of_items (h.applies_named? hname hn) hone
    refine .andThen (faultsAre_listVerdicts fun item hm i => ?_) fun _ => .pure _
    exact failsTold_named? h hbelow happly hn item (hitem item hm) _

lemma told_validateArray (hnames : ∀ name ∈ JsonType.array.keywords, name ∈ names) {value : Value}
    (hv : small → value.everyPart isInRange = true) :
    Told small (validateArray validate keywords value place).result := by
  refine .andThen (x := liftM (guardReasons _ _ _ _))
    (told_guardReasons h (hnames _ (by simp [JsonType.keywords])) _ _ _) fun _ => ?_
  split
  · exact .andThen (told_elementsPart h hbelow (hnames _ (by simp [JsonType.keywords])) hv _)
      fun _ => .pure _
  · exact .pure _

lemma told_nameVerdict {schema : Value} (happly : Value.applies .keySchema schema = true)
    (hn : keywords.named? "propertyNames" = some schema) (key : Value) :
    Told small (nameVerdict validate schema key place).result := by
  refine faultsAre_nameVerdict ?_ ?_
  · rintro checks rfl
    have hchecks : Entries.Applicable small textKeywords checks :=
      ⟨happly, fun hsmall => h.inRange_named? hn hsmall⟩
    exact told_stringReasons hchecks (fun _ => id) _ _
  · intro hobject
    exact failsTold_named? h hbelow (isApplicable_of_not_object hobject) hn _ (fun _ => rfl) _

lemma told_membersPart (hnames : ∀ name ∈ JsonType.object.keywords, name ∈ names)
    {members : Entries} (hm : small → (Value.object members).everyPart isInRange = true) :
    Told small (membersPart validate keywords members place).result := by
  have hmember : ∀ m ∈ members, small → m.2.everyPart isInRange = true :=
    fun m he hsmall => (everyPart_of_entry (hm hsmall) m he).2
  have hget : ∀ key, small → (members.get key).everyPart isInRange = true :=
    fun key hsmall => everyPart_of_get (hm hsmall) rfl key
  refine .andThen (x := liftM (requiredReasons _ _))
    (told_requiredReasons h (hnames _ (by simp [JsonType.keywords])) _) fun _ => ?_
  refine .andThen_of_ok (x := liftM (keywords.children _))
    (told_children h (hnames _ (by simp [JsonType.keywords])) (.inl rfl)) fun children hc => ?_
  refine .andThen (faultsAre_mergeProperties (fun e _ => told_isSuppressed (hget e.1))
    fun e he => ?_) fun _ => ?_
  · have hchild := failsTold_child h hbelow (hnames _ (by simp [JsonType.keywords]))
      (fun _ => rfl) (childrenOf_eq hc ▸ he)
    exact hchild.2 _ (hget e.1) _
  refine .andThen_of_ok (x := liftM (keywords.children _))
    (told_children h (hnames _ (by simp [JsonType.keywords])) (.inr rfl)) fun patterns hp => ?_
  have hpattern := fun {e} he => failsTold_child h hbelow (e := e)
    (hnames "patternProperties" (by simp [JsonType.keywords])) (fun _ => rfl)
    (childrenOf_eq hp ▸ he)
  refine .andThen (faultsAre_mergePatterns (fun e he text => ?_) fun e he m hm => ?_) fun _ => ?_
  · exact told_patternOccurs (hpattern he).1 _ _
  · exact (hpattern he).2 _ (hmember m hm) _
  refine .andThen (faultsAre_additionalPart (fun m hm => told_isSuppressed (hmember m hm))
    fun schema hd m hm => ?_) fun _ => ?_
  · have hn := Entries.named?_of_defined? hd
    have happly : schema.isApplicable = true :=
      h.applies_named? (hnames _ (by simp [JsonType.keywords])) hn
    exact failsTold_named? h hbelow happly hn _ (hmember m hm) _
  refine .andThen (faultsAre_namesPart fun schema hd key => ?_) fun _ => ?_
  · have hn := Entries.named?_of_defined? hd
    exact told_nameVerdict h hbelow
      (h.applies_named? (hnames _ (by simp [JsonType.keywords])) hn) hn key
  exact .andThen (x := liftM (minCountReasons _ _))
    (told_minCountReasons h (hnames _ (by simp [JsonType.keywords])) _) fun _ =>
    .andThen (x := liftM (maxCountReasons _ _))
      (told_maxCountReasons h (hnames _ (by simp [JsonType.keywords])) _) fun _ => .pure _

lemma told_validateObject (hnames : ∀ name ∈ JsonType.object.keywords, name ∈ names) {value : Value}
    (hv : small → value.everyPart isInRange = true) :
    Told small (validateObject validate keywords value place).result := by
  refine .andThen (x := liftM (guardReasons _ _ _ _))
    (told_guardReasons h (hnames _ (by simp [JsonType.keywords])) _ _ _) fun _ => ?_
  split
  · exact .andThen (told_membersPart h hbelow hnames hv) fun _ => .pure _
  · exact .pure _

lemma told_validateTyped (type : JsonType) (hnames : ∀ name ∈ type.keywords, name ∈ names)
    {value : Value} (hv : small → value.everyPart isInRange = true) :
    Told small (validateTyped validate type keywords value place).result := by
  cases type with
  | string => exact faultsAre_scalarVerdict (told_stringReasons h hnames _ _) value
  | number => exact faultsAre_scalarVerdict (told_numberReasons h hnames _) value
  | integer => exact faultsAre_scalarVerdict (told_integerReasons h hnames _) value
  | boolean | null => exact faultsAre_scalarVerdict (.ok _) value
  | array => exact told_validateArray h hbelow hnames hv
  | object => exact told_validateObject h hbelow hnames hv

end

end Validation

/-- **Validation against an applicable schema fails with told faults only**: with a defect, or over
an integer that is beyond the doubles. -/
theorem failsTold_of_isApplicable {small : Prop} {schema : Value} (h : schema.isApplicable = true)
    (hr : small → schema.everyPart isInRange = true) : schema.FailsTold small := by
  induction hd : schema.depth using Nat.strongRecOn generalizing schema with
  | ind n ih =>
    intro value hv place
    rw [validate_eq]
    cases schema with
    | bool b => cases b <;> exact .pure _
    | object keywords =>
      have hbelow : FailsToldBelow small keywords := by
        intro child hdepth hchild hrange
        simp only [Value.depth] at hd
        exact ih child.depth (by omega) hchild hrange rfl
      show Told small (validateKeywords validate keywords value place).result
      rw [validateKeywords_eq]
      split
      · exact .pure _
      · split
        · intro fault hfault
          cases hfault
        · rename_i type ht
          refine told_validateTyped ⟨h, hr⟩ hbelow type (fun name hname => ?_) hv
          simp [Entries.appliedNames, ht, hname]
        · exact .pure _
    | _ => exact told_defect _ _

end JsonSchema
