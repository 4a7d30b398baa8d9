import JsonSchema.Proofs.Keyword
import JsonSchema.Proofs.Pointer

/-!
Defects of a schema.

A schema has a defect where a path in it leads to something that is neither a boolean nor an
object, to a pattern that cannot be read, or to a member of `patternProperties` whose key cannot be
read. Main statement: if a validation ends in a defect, the schema has it, and a pattern that cannot
be read is told at its place. Something that is no schema is told at the root, wherever it stands.

Most checks know no defects at all; a pattern is looked for in few of them. The run follows by
induction on the depth of the schema.
-/

namespace JsonSchema

open Validation Outcome

/-! ### The faults of a computation -/

/-- All faults that a computation may end in are so. -/
def FaultsAre {α : Type} (P : Fault → Prop) (x : Except Fault α) : Prop := ∀ f, x = .error f → P f

namespace FaultsAre

variable {α β : Type} {P Q : Fault → Prop}

lemma ok (a : α) : FaultsAre P (.ok a) := nofun

lemma pure (a : α) : FaultsAre P (Pure.pure a : Outcome α).result := nofun

lemma error {f : Fault} (h : P f) : FaultsAre P (.error f : Except Fault α) := by
  rintro _ ⟨⟩
  exact h

lemma bind {x : Except Fault α} {f : α → Except Fault β} (h : FaultsAre P x)
    (hf : ∀ a, FaultsAre P (f a)) : FaultsAre P (x >>= f) := by
  cases x with
  | ok a => exact hf a
  | error fault => exact error (h fault rfl)

/-- What follows a computation matters only where the computation has an answer. -/
lemma andThen_of_ok {x : Outcome α} {f : α → Outcome β} (h : FaultsAre P x.result)
    (hf : ∀ a, x.result = .ok a → FaultsAre P (f a).result) : FaultsAre P (x >>= f).result := by
  rw [result_bind]
  cases hx : x.result with
  | ok a => exact hf a hx
  | error fault => exact error (h fault hx)

lemma andThen {x : Outcome α} {f : α → Outcome β} (h : FaultsAre P x.result)
    (hf : ∀ a, FaultsAre P (f a).result) : FaultsAre P (x >>= f).result :=
  h.andThen_of_ok fun a _ => hf a

lemma mono {x : Except Fault α} (h : FaultsAre P x) (hpq : ∀ f, P f → Q f) : FaultsAre Q x :=
  fun f hf => hpq f (h f hf)

end FaultsAre

/-! ### Checks without defects -/

def Fault.isDefect : Fault → Bool
  | schema _ _ => true
  | _ => false

/-- A computation that does not end in a defect. -/
abbrev NoDefect {α : Type} (x : Except Fault α) : Prop := FaultsAre (fun f => f.isDefect = false) x

section

variable {keywords : Entries}

lemma noDefect_reportIf (failed : Bool) (reason : Reason) : NoDefect (reportIf failed reason) := by
  unfold reportIf
  split
  · split
    · exact .ok _
    · exact .error rfl
  · exact .ok _

lemma faultsAre_whenGiven {P : Fault → Prop} {name : String} {check : Value → Reasons}
    (h : ∀ v, keywords.named? name = some v → FaultsAre P (check v)) :
    FaultsAre P (whenGiven keywords name check) := by
  unfold whenGiven
  split
  · rename_i v hv
    exact h v (Option.filter_eq_some_iff.1 hv).1
  · exact .ok _

lemma noDefect_elements (v : Value) : NoDefect v.elements := by
  cases v <;> first | exact .ok _ | exact .error rfl

lemma noDefect_comparable (v : Value) : NoDefect v.comparable := by
  unfold Value.comparable
  split
  · exact .ok _
  · exact .error rfl

lemma noDefect_guardReasons (expected : JsonType) (form : LiteralForm) (value : Value) :
    NoDefect (guardReasons keywords expected form value) := by
  refine .bind ?const fun _ => .bind ?enum fun _ => .ok _
  case const =>
    unfold constReasons
    split
    · exact noDefect_reportIf _ _
    · exact .ok _
  case enum =>
    exact faultsAre_whenGiven fun v _ => .bind (noDefect_elements v) fun _ => noDefect_reportIf _ _

lemma noDefect_minLengthReasons (text : Text) : NoDefect (minLengthReasons keywords text) :=
  faultsAre_whenGiven fun v _ => .bind (noDefect_comparable v) fun _ => noDefect_reportIf _ _

lemma noDefect_maxLengthReasons (text : Text) : NoDefect (maxLengthReasons keywords text) :=
  faultsAre_whenGiven fun v _ => .bind (noDefect_comparable v) fun _ => noDefect_reportIf _ _

lemma noDefect_boundReasons (x : Number) (bound : Bound) :
    NoDefect (boundReasons keywords x bound) :=
  faultsAre_whenGiven fun v _ => .bind (noDefect_comparable v) fun _ => noDefect_reportIf _ _

lemma noDefect_multipleReasons (x : Number) : NoDefect (multipleReasons keywords x) := by
  refine faultsAre_whenGiven fun v _ => ?_
  split
  · exact noDefect_reportIf _ _
  · split
    · exact .error rfl
    · exact noDefect_reportIf _ _

lemma noDefect_magnitudeReasons (x : Number) : NoDefect (magnitudeReasons keywords x) :=
  .bind (noDefect_boundReasons x _) fun _ => .bind (noDefect_boundReasons x _) fun _ =>
    .bind (noDefect_boundReasons x _) fun _ => .bind (noDefect_boundReasons x _) fun _ =>
    .bind (noDefect_multipleReasons x) fun _ => .ok _

lemma noDefect_numberReasons (value : Value) : NoDefect (numberReasons keywords value) := by
  refine .bind (noDefect_guardReasons _ _ _) fun _ => ?_
  split
  · exact .bind (noDefect_magnitudeReasons _) fun _ => .ok _
  · exact .ok _

lemma noDefect_integerReasons (value : Value) : NoDefect (integerReasons keywords value) := by
  refine .bind (noDefect_numberReasons value) fun _ => ?_
  split <;> exact .ok _

lemma noDefect_missingNames (defined names : List Value) :
    NoDefect (missingNames defined names) := by
  induction names with
  | nil => exact .ok _
  | cons name rest ih =>
    unfold missingNames
    split
    · exact .error rfl
    · exact .bind ih fun _ => .ok _

lemma noDefect_listedNames (names : List Value) : NoDefect (listedNames names) := by
  induction names with
  | nil => exact .ok _
  | cons name rest ih =>
    cases name with
    | string s => exact .bind ih fun _ => .ok _
    | _ => exact .error rfl

lemma noDefect_requiredReasons (members : Entries) :
    NoDefect (requiredReasons keywords members) := by
  unfold requiredReasons
  split
  · exact .ok _
  · refine .bind (noDefect_elements _) fun _ => .bind (noDefect_missingNames _ _) fun missing => ?_
    split
    · exact .ok _
    · exact .bind (noDefect_listedNames missing) fun _ => .ok _

lemma noDefect_minCountReasons (members : Entries) :
    NoDefect (minCountReasons keywords members) := by
  unfold minCountReasons
  split
  · exact .ok _
  · exact .bind (noDefect_comparable _) fun _ => noDefect_reportIf _ _

lemma noDefect_maxCountReasons (members : Entries) : NoDefect (maxCountReasons keywords members) :=
  faultsAre_whenGiven fun v _ => .bind (noDefect_comparable v) fun _ => noDefect_reportIf _ _

lemma noDefect_children (name : String) : NoDefect (keywords.children name) := by
  unfold Entries.children
  split
  · exact .ok _
  · split
    · exact .ok _
    · split
      · exact .ok _
      · exact .error rfl

lemma noDefect_isSuppressed (member : Value) (verdict : Verdict) :
    NoDefect (isSuppressed member verdict) := by
  unfold isSuppressed
  split
  · exact .ok _
  · unfold Value.isFalsy
    repeat' split
    all_goals first | exact .ok _ | exact .error rfl

end

/-! ### Defects -/

namespace Value

def brokenCause? : Value → Option Text
  | string p =>
    match Regex.Pattern.parse p with
    | .error e => e.message? p
    | .ok _ => none
  | bytes bs =>
    let text := String.ofList (bs.map fun b => Char.ofNat b.toNat)
    match Regex.Pattern.parse text with
    | .error e => e.message? text
    | .ok _ => none
  | _ => none

/-- A defect at the end of a path in a schema. -/
inductive HasDefect (schema : Value) : List Step → SchemaDefect → Prop where
  | node {q : List Step} {v : Value} (h : schema.follow q = some v) (hv : isSchema v = false) :
    HasDefect schema q (.notASchema v.storedKindName)
  | pattern {q : List Step} {pattern : Value} {cause : Text}
    (h : schema.follow (q ++ [.member (.string "pattern")]) = some pattern)
    (hc : pattern.brokenCause? = some cause) :
    HasDefect schema (q ++ [.member (.string "pattern")]) (.badPattern pattern.text cause)
  | key {q : List Step} {pattern v : Value} {cause : Text}
    (h : schema.follow (q ++ [.member (.string "patternProperties"), .member pattern]) = some v)
    (hc : pattern.brokenCause? = some cause) :
    HasDefect schema (q ++ [.member (.string "patternProperties"), .member pattern])
      (.badPattern pattern.text cause)

/-- What a part of a schema has for a defect, the schema has. -/
lemma HasDefect.of_follow {schema child : Value} {q q' : List Step} {defect : SchemaDefect}
    (h : child.HasDefect q' defect) (hq : schema.follow q = some child) :
    schema.HasDefect (q ++ q') defect := by
  have happend : ∀ more, schema.follow (q ++ more) = child.follow more := by
    intro more
    rw [follow_append, hq]
    rfl
  cases h with
  | node h hv => exact .node (by rw [happend, h]) hv
  | pattern h hc =>
    rw [← List.append_assoc]
    exact .pattern (by rw [List.append_assoc, happend, h]) hc
  | key h hc =>
    rw [← List.append_assoc]
    exact .key (by rw [List.append_assoc, happend, h]) hc

end Value

/-- Where a defect is told that stands at a location: something that is no schema, at the root. -/
def SchemaDefect.toldAt (location : Location) : SchemaDefect → Location
  | notASchema _ => .here
  | _ => location

@[simp] lemma SchemaDefect.toldAt_badPattern (location : Location) (pattern cause : Text) :
    (badPattern pattern cause).toldAt location = location := rfl

/-- A fault that is no defect, or a defect of a schema that stands at some location. -/
def Fault.BelongsTo (schema : Value) (location : Location) : Fault → Prop
  | .schema defect told => ∃ q, schema.HasDefect q defect ∧ told = defect.toldAt (location.extend q)
  | _ => True

namespace Fault

lemma belongsTo_of_noDefect {schema : Value} {location : Location} {f : Fault}
    (h : f.isDefect = false) : f.BelongsTo schema location := by
  cases f with
  | schema => cases h
  | _ => exact trivial

lemma BelongsTo.of_follow {schema child : Value} {location : Location} {q : List Step} {f : Fault}
    (h : f.BelongsTo child (location.extend q)) (hq : schema.follow q = some child) :
    f.BelongsTo schema location := by
  cases f with
  | schema defect told =>
    obtain ⟨q', hd, rfl⟩ := h
    exact ⟨q ++ q', hd.of_follow hq, by rw [Location.extend_extend]⟩
  | _ => exact trivial

end Fault

/-! ### What a node asks -/

section

variable {P : Fault → Prop} {keywords : Entries} {place : Place}

lemma faultsAre_patternOccurs {pattern : Value} {location : Location}
    (hP : ∀ f, f.isDefect = false → P f)
    (hb : ∀ cause, pattern.brokenCause? = some cause →
      P (.schema (.badPattern pattern.text cause) location)) (text : Text) :
    FaultsAre P (patternOccurs pattern text location) := by
  unfold patternOccurs
  split
  · split
    · exact .ok _
    · exact .error (hP _ rfl)
    · exact .error (hP _ rfl)
    · rename_i p reason position hp
      refine .error (hb _ ?_)
      cases position <;> simp [Value.brokenCause?, hp, Regex.Error.message?]
  · rename_i bs
    unfold bytesPattern
    simp only
    split
    · rename_i e he
      split
      · rename_i cause hc
        refine .error (hb cause ?_)
        simp only [Value.brokenCause?, he, hc]
      · exact .error (hP _ rfl)
    · exact .error (hP _ rfl)
  · exact .error (hP _ rfl)

lemma faultsAre_stringReasons {location : Location} (hP : ∀ f, f.isDefect = false → P f)
    (hb : ∀ pattern cause, keywords.named? "pattern" = some pattern →
      pattern.brokenCause? = some cause →
      P (.schema (.badPattern pattern.text cause) (location.keyword "pattern"))) (value : Value) :
    FaultsAre P (stringReasons keywords value location) := by
  have hpattern : ∀ text, FaultsAre P (patternReasons keywords text location) := by
    refine fun text => faultsAre_whenGiven fun pattern hn => ?_
    exact .bind (faultsAre_patternOccurs hP (fun cause => hb pattern cause hn) text)
      fun _ => (noDefect_reportIf _ _).mono hP
  refine .bind ((noDefect_guardReasons _ _ _).mono hP) fun _ => ?_
  split
  · rename_i text
    refine .bind ?_ fun _ => .ok _
    exact .bind ((noDefect_minLengthReasons text).mono hP) fun _ =>
      .bind ((noDefect_maxLengthReasons text).mono hP) fun _ =>
      .bind (hpattern text) fun _ => .ok _
  · exact .ok _

lemma faultsAre_scalarVerdict {reasons : Reasons} (h : FaultsAre P reasons) (value : Value) :
    FaultsAre P (scalarVerdict keywords value place reasons).result :=
  .andThen (x := liftM reasons) h fun _ => .pure _

/-! ### Arrays -/

lemma faultsAre_listVerdicts {schema : Value} {index : Nat} {items : List Value}
    (h : ∀ item ∈ items, ∀ i, FaultsAre P (validate schema item (place.listElement i)).result) :
    FaultsAre P (listVerdicts validate schema place index items).result := by
  induction items generalizing index with
  | nil => exact .pure _
  | cons item rest ih =>
    refine .andThen (h item (List.mem_cons_self ..) index) fun _ => ?_
    exact .andThen (ih fun other ho => h other (List.mem_cons_of_mem _ ho)) fun _ => .pure _

lemma faultsAre_tupleVerdicts {schemas items : List Value} {index : Nat}
    (h : ∀ schema i, schemas[i]? = some schema → ∀ item ∈ items,
      FaultsAre P (validate schema item (place.tupleElement (index + i))).result) :
    FaultsAre P (tupleVerdicts validate place index schemas items).result := by
  induction schemas generalizing index items with
  | nil => cases items <;> exact .pure _
  | cons schema schemas ih =>
    cases items with
    | nil => exact .pure _
    | cons item rest =>
      refine .andThen (h schema 0 rfl item (List.mem_cons_self ..)) fun _ =>
        .andThen (ih fun s i hs item hi => ?_) fun _ => .pure _
      rw [Nat.add_assoc, Nat.add_comm 1]
      exact h s (i + 1) hs item (List.mem_cons_of_mem _ hi)

/-! ### Objects -/

lemma faultsAre_mergeProperties {members children : Entries} {part : ObjectPart}
    (hs : ∀ e ∈ children, ∀ verdict, FaultsAre P (isSuppressed (members.get e.1) verdict))
    (h : ∀ e ∈ children,
      FaultsAre P (validate e.2 (members.get e.1) (place.property "properties" e.1)).result) :
    FaultsAre P (mergeProperties validate members place children part).result := by
  induction children generalizing part with
  | nil => exact .pure _
  | cons e rest ih =>
    refine .andThen (h e (List.mem_cons_self ..)) fun verdict => ?_
    refine .andThen (x := liftM (isSuppressed _ verdict)) (hs e (List.mem_cons_self ..) verdict)
      fun suppressed => ?_
    have hrest := fun {part} => @ih part (fun f hf => hs f (List.mem_cons_of_mem _ hf))
      fun f hf => h f (List.mem_cons_of_mem _ hf)
    cases suppressed <;> exact hrest

lemma faultsAre_mergeMatching {pattern child : Value} {members : Entries} {part : ObjectPart}
    (hp : ∀ text, FaultsAre P
      (patternOccurs pattern text ((place.schema.keyword "patternProperties").member pattern)))
    (h : ∀ e ∈ members,
      FaultsAre P (validate child e.2 (place.patternProperty pattern e.1)).result) :
    FaultsAre P (mergeMatching validate pattern child place members part).result := by
  induction members generalizing part with
  | nil => exact .pure _
  | cons e rest ih =>
    have hrest := fun {part} => @ih part fun f hf => h f (List.mem_cons_of_mem _ hf)
    refine .andThen (x := liftM (patternOccurs _ _ _)) (hp _) fun found => ?_
    cases found with
    | true => exact .andThen (h e (List.mem_cons_self ..)) fun _ => hrest
    | false => exact hrest

lemma faultsAre_mergePatterns {members children : Entries} {part : ObjectPart}
    (hp : ∀ e ∈ children, ∀ text, FaultsAre P
      (patternOccurs e.1 text ((place.schema.keyword "patternProperties").member e.1)))
    (h : ∀ e ∈ children, ∀ m ∈ members,
      FaultsAre P (validate e.2 m.2 (place.patternProperty e.1 m.1)).result) :
    FaultsAre P (mergePatterns validate members place children part).result := by
  induction children generalizing part with
  | nil => exact .pure _
  | cons e rest ih =>
    refine .andThen (faultsAre_mergeMatching (hp e (List.mem_cons_self ..))
      (h e (List.mem_cons_self ..))) fun _ => ?_
    exact ih (fun f hf => hp f (List.mem_cons_of_mem _ hf))
      fun f hf => h f (List.mem_cons_of_mem _ hf)

lemma faultsAre_mergeAdditional {schema : Value} {extra : Entries} {part : ObjectPart}
    (hs : ∀ e ∈ extra, ∀ verdict, FaultsAre P (isSuppressed e.2 verdict))
    (h : ∀ e ∈ extra, FaultsAre P (validate schema e.2 (place.additionalProperty e.1)).result) :
    FaultsAre P (mergeAdditional validate schema place extra part).result := by
  induction extra generalizing part with
  | nil => exact .pure _
  | cons e rest ih =>
    refine .andThen (h e (List.mem_cons_self ..)) fun verdict => ?_
    refine .andThen (x := liftM (isSuppressed _ verdict)) (hs e (List.mem_cons_self ..) verdict)
      fun suppressed => ?_
    have hrest := fun {part} => @ih part (fun f hf => hs f (List.mem_cons_of_mem _ hf))
      fun f hf => h f (List.mem_cons_of_mem _ hf)
    cases suppressed <;> exact hrest

lemma faultsAre_additionalPart {members : Entries} {part : ObjectPart}
    (hs : ∀ e ∈ members, ∀ verdict, FaultsAre P (isSuppressed e.2 verdict))
    (h : ∀ schema, keywords.defined? "additionalProperties" = some schema → ∀ e ∈ members,
      FaultsAre P (validate schema e.2 (place.additionalProperty e.1)).result) :
    FaultsAre P (additionalPart validate keywords members place part).result := by
  unfold additionalPart
  simp only
  split
  · exact .pure _
  · split
    · exact .pure _
    · exact .pure _
    · exact .pure _
    · have hextra : ∀ e ∈ extraMembers members part, e ∈ members := fun e he =>
        (List.mem_filter.1 he).1
      exact faultsAre_mergeAdditional (fun e he => hs e (hextra e he))
        fun e he => h _ ‹_› e (hextra e he)

lemma faultsAre_nameVerdict {schema key : Value}
    (hs : ∀ checks, schema = .object checks →
      FaultsAre P (stringReasons checks (.string key.text) place.schema))
    (h : schema.isObject = false →
      FaultsAre P (validate schema (.string key.text) place).result) :
    FaultsAre P (nameVerdict validate schema key place).result := by
  cases schema with
  | object checks => exact .andThen (x := liftM (stringReasons _ _ _)) (hs _ rfl) fun _ => .pure _
  | _ => exact h rfl

lemma faultsAre_namesPart {members : Entries} {part : ObjectPart}
    (h : ∀ schema, keywords.defined? "propertyNames" = some schema → ∀ key,
      FaultsAre P (nameVerdict validate schema key (place.keyword "propertyNames")).result) :
    FaultsAre P (namesPart validate keywords members place part).result := by
  unfold namesPart
  split
  · exact .pure _
  · rename_i schema hd
    refine .andThen ?_ fun _ => .pure _
    induction members with
    | nil => exact .pure _
    | cons e rest ih => exact .andThen (h schema hd e.1) fun _ => .andThen ih fun _ => .pure _

end

/-! ### Nodes -/

section

variable {keywords : Entries} {place : Place}

def PartsBelong (keywords : Entries) (place : Place) : Prop :=
  ∀ q child, q ≠ [] → (Value.object keywords).follow q = some child →
    ∀ (value : Value) (place' : Place), place'.schema = place.schema.extend q →
      FaultsAre (Fault.BelongsTo (.object keywords) place.schema)
        (validate child value place').result

/-- A pattern that a part of a node holds is a defect of the node if it cannot be read. -/
lemma stringReasons_belong {checks : Entries} {q : List Step}
    (hq : (Value.object keywords).follow q = some (.object checks)) {location : Location}
    (hl : location = place.schema.extend q) (value : Value) :
    FaultsAre (Fault.BelongsTo (.object keywords) place.schema)
      (stringReasons checks value location) := by
  refine faultsAre_stringReasons (fun _ => Fault.belongsTo_of_noDefect) ?_ value
  rintro pattern cause hn hc
  refine ⟨_, .pattern (q := q) ?_ hc, ?_⟩
  · rw [Value.follow_append, hq]
    exact Value.follow_keyword hn
  · rw [hl, SchemaDefect.toldAt_badPattern, ← Location.extend_extend]
    rfl

lemma elementsPart_belong (ih : PartsBelong keywords place) (items : List Value) (value : Value) :
    FaultsAre (Fault.BelongsTo (.object keywords) place.schema)
      (elementsPart validate keywords items value place).result := by
  unfold elementsPart
  split
  · exact .pure _
  · rename_i kind schemas hd
    split
    · exact .pure _
    · refine .andThen (faultsAre_tupleVerdicts fun schema i hs item _ => ?_) fun _ => .pure _
      refine ih [.member (.string "items"), .element (0 + i)] schema (by simp) ?_ item _ ?_
      · rw [Value.follow_cons, Value.child?_keyword, Entries.named?_of_defined? hd,
          Option.bind_some, Value.follow_cons, Value.child?_element, Nat.zero_add, hs]
        rfl
      · simp [Place.tupleElement, Location.extend, Location.keyword, Location.member,
          Location.element, Location.push]
  · rename_i hd
    refine .andThen (faultsAre_listVerdicts fun item _ i => ?_) fun _ => .pure _
    exact ih _ _ (by simp) (Value.follow_keyword (Entries.named?_of_defined? hd)) item _ rfl

lemma validateArray_belong (ih : PartsBelong keywords place) (value : Value) :
    FaultsAre (Fault.BelongsTo (.object keywords) place.schema)
      (validateArray validate keywords value place).result := by
  refine .andThen (x := liftM (guardReasons _ _ _ _))
    ((noDefect_guardReasons _ _ _).mono fun _ => Fault.belongsTo_of_noDefect) fun _ => ?_
  split
  · exact .andThen (elementsPart_belong ih _ _) fun _ => .pure _
  · exact .pure _

variable (hs : (Value.object keywords).EveryObject Entries.HasDistinctKeys)

include hs

lemma membersPart_belong (ih : PartsBelong keywords place) (members : Entries) :
    FaultsAre (Fault.BelongsTo (.object keywords) place.schema)
      (membersPart validate keywords members place).result := by
  have hplain : ∀ f : Fault, f.isDefect = false → f.BelongsTo (.object keywords) place.schema :=
    fun _ => Fault.belongsTo_of_noDefect
  have hchild : ∀ name children, keywords.children name = .ok children → ∀ e ∈ children,
      (Value.object keywords).follow [.member (.string name), .member e.1] = some e.2 :=
    fun name children hc e he => Spot.follow_child hs (childrenOf_eq hc ▸ he)
  refine .andThen (x := liftM (requiredReasons _ _)) ((noDefect_requiredReasons _).mono hplain)
    fun _ => ?_
  refine .andThen_of_ok (x := liftM (keywords.children _)) ((noDefect_children _).mono hplain)
    fun properties hproperties => ?_
  have hsuppressed : ∀ (member : Value) (verdict : Verdict), FaultsAre
      (Fault.BelongsTo (.object keywords) place.schema) (isSuppressed member verdict) :=
    fun member verdict => (noDefect_isSuppressed member verdict).mono hplain
  refine .andThen (faultsAre_mergeProperties (fun _ _ => hsuppressed _) fun e he => ?_) fun _ => ?_
  · refine ih _ _ (by simp) (hchild _ _ hproperties e he) _ _ ?_
    rw [Spot.place_property]
    rfl
  refine .andThen_of_ok (x := liftM (keywords.children _)) ((noDefect_children _).mono hplain)
    fun patterns hpatterns => ?_
  refine .andThen (faultsAre_mergePatterns (fun e he text => ?_) fun e he m _ => ?_)
    fun _ => ?_
  · -- a key of `patternProperties` is told at its own member, whichever member it is put to
    refine faultsAre_patternOccurs hplain (fun cause hc => ?_) text
    refine ⟨_, .key (q := []) (hchild _ _ hpatterns e he) hc, ?_⟩
    simp [Location.extend, Location.keyword, Location.member, Location.push]
  · refine ih _ _ (by simp) (hchild _ _ hpatterns e he) m.2 _ ?_
    rw [Spot.place_patternProperty]
    rfl
  refine .andThen (faultsAre_additionalPart (fun _ _ => hsuppressed _) fun schema hd e _ => ?_)
    fun _ => ?_
  · exact ih _ _ (by simp) (Value.follow_keyword (Entries.named?_of_defined? hd)) e.2 _ rfl
  refine .andThen (faultsAre_namesPart fun schema hd key => ?_) fun _ => ?_
  · have hq := Value.follow_keyword (Entries.named?_of_defined? hd)
    refine faultsAre_nameVerdict ?_ fun _ => ih _ _ (by simp) hq _ _ rfl
    rintro checks rfl
    exact stringReasons_belong hq rfl _
  exact .andThen (x := liftM (minCountReasons _ _)) ((noDefect_minCountReasons _).mono hplain)
    fun _ => .andThen (x := liftM (maxCountReasons _ _)) ((noDefect_maxCountReasons _).mono hplain)
    fun _ => .pure _

lemma validateObject_belong (ih : PartsBelong keywords place) (value : Value) :
    FaultsAre (Fault.BelongsTo (.object keywords) place.schema)
      (validateObject validate keywords value place).result := by
  refine .andThen (x := liftM (guardReasons _ _ _ _))
    ((noDefect_guardReasons _ _ _).mono fun _ => Fault.belongsTo_of_noDefect) fun _ => ?_
  split
  · exact .andThen (membersPart_belong hs ih _) fun _ => .pure _
  · exact .pure _

lemma validateTyped_belong (ih : PartsBelong keywords place) (type : JsonType) (value : Value) :
    FaultsAre (Fault.BelongsTo (.object keywords) place.schema)
      (validateTyped validate type keywords value place).result := by
  have hplain : ∀ f : Fault, f.isDefect = false → f.BelongsTo (.object keywords) place.schema :=
    fun _ => Fault.belongsTo_of_noDefect
  cases type with
  | string =>
    refine faultsAre_scalarVerdict (stringReasons_belong (q := []) rfl ?_ value) value
    simp [Location.extend]
  | number => exact faultsAre_scalarVerdict ((noDefect_numberReasons value).mono hplain) value
  | integer => exact faultsAre_scalarVerdict ((noDefect_integerReasons value).mono hplain) value
  | boolean => exact faultsAre_scalarVerdict (.ok _) value
  | null => exact faultsAre_scalarVerdict (.ok _) value
  | array => exact validateArray_belong ih value
  | object => exact validateObject_belong hs ih value

end

/-- The faults of a validation belong to its schema, at its place. -/
lemma validate_belong {schema : Value} (hs : schema.EveryObject Entries.HasDistinctKeys)
    (value : Value) (place : Place) :
    FaultsAre (Fault.BelongsTo schema place.schema) (validate schema value place).result := by
  -- A part of a node is less deep than the node, at whatever place it is validated.
  induction hn : schema.depth using Nat.strongRecOn generalizing schema value place with
  | ind n ih =>
    subst hn
    rw [validate_eq]
    cases schema with
    | object keywords =>
      have hparts : PartsBelong keywords place := by
        intro q child hne hq value place' hplace fault hf
        refine .of_follow ?_ hq
        rw [← hplace]
        exact ih _ (Value.depth_of_follow hq hne) (hs.of_follow hq) value place' rfl fault hf
      show FaultsAre _ (validateKeywords validate keywords value place).result
      rw [validateKeywords_eq]
      split
      · exact .pure _
      · split
        · exact nofun
        · exact validateTyped_belong hs hparts _ value
        · exact .pure _
    | bool b => cases b <;> exact .pure _
    | _ =>
      -- no schema: told at the root, without the place
      exact .error ⟨[], .node rfl rfl, rfl⟩

namespace Validation

/-- **A defect that ends a validation is one of the schema.** A path leads to it: to something that
is no schema, to a `pattern` that cannot be read, or to a member of `patternProperties` whose key
cannot be read. A pattern is told where the path leads from the place; what is no schema is told at
the root, without its path. -/
theorem defect_of_fault {schema value : Value} {place : Place} {defect : SchemaDefect}
    {location : Location} (hs : schema.EveryObject Entries.HasDistinctKeys)
    (h : (validate schema value place).result = .error (.schema defect location)) :
    ∃ q, schema.HasDefect q defect ∧
      (∀ kind, defect = .notASchema kind → location = .here) ∧
      (∀ pattern cause, defect = .badPattern pattern cause →
        location.text = place.schema.text ++ pathText q) := by
  obtain ⟨q, hd, rfl⟩ := validate_belong hs value place _ h
  refine ⟨q, hd, ?_, ?_⟩
  · rintro kind rfl
    rfl
  · rintro pattern cause rfl
    exact Location.text_extend _ _

/-- The defect that a computation ends in, and where it is told. -/
def toldDefect? {α : Type} : Except Fault α → Option (SchemaDefect × Text)
  | .error (.schema defect location) => some (defect, location.text)
  | _ => none

lemma exists_of_toldDefect? {α : Type} {x : Except Fault α} {defect : SchemaDefect} {text : Text}
    (h : toldDefect? x = some (defect, text)) :
    ∃ location, x = .error (.schema defect location) ∧ location.text = text := by
  unfold toldDefect? at h
  split at h
  · rename_i defect' location
    obtain ⟨rfl, rfl⟩ := Prod.mk.inj (Option.some.inj h)
    exact ⟨location, rfl, rfl⟩
  · cases h

def latchedSchema : Value :=
  .object [(.string "type", .string "object"),
    (.string "properties", .object [(.string "a", .object [(.string "type", .string "object"),
      (.string "propertyNames", .object [(.string "pattern", .string "(")])])])]

theorem defect_of_fault_latched :
    latchedSchema.EveryObject Entries.HasDistinctKeys ∧ ∃ defect location q,
      (validate latchedSchema (.object [(.string "a", .object [(.string "b", .null)])])
        ⟨.start "config", .here⟩).result = .error (.schema defect location) ∧
      location.text = "config/properties/a/propertyNames/pattern" ∧
      latchedSchema.HasDefect q defect ∧ location.text = "config" ++ pathText q := by
  have hs : latchedSchema.EveryObject Entries.HasDistinctKeys := by
    have hnames : Value.EveryObject Entries.HasDistinctKeys
        (.object [(.string "pattern", .string "(")]) :=
      .object (by decide +kernel) (by simpa using .leaf rfl)
    have hchild : Value.EveryObject Entries.HasDistinctKeys
        (.object [(.string "type", .string "object"),
          (.string "propertyNames", .object [(.string "pattern", .string "(")])]) :=
      .object (by decide +kernel) (by simpa using ⟨.leaf rfl, hnames⟩)
    refine .object (by decide +kernel) ?_
    simpa using ⟨.leaf rfl, .object (by decide +kernel) (by simpa using hchild)⟩
  obtain ⟨location, h, htext⟩ := exists_of_toldDefect? (show toldDefect? (validate latchedSchema
    (.object [(.string "a", .object [(.string "b", .null)])]) ⟨.start "config", .here⟩).result =
      (some (.badPattern "(" "missing ), unterminated subpattern at position 0",
        "config/properties/a/propertyNames/pattern") : Option (SchemaDefect × Text))
      by decide +kernel)
  obtain ⟨q, hd, -, hpattern⟩ := defect_of_fault hs h
  exact ⟨hs, _, location, q, h, htext, hd, hpattern _ _ rfl⟩

def looseSchema : Value :=
  .object [(.string "type", .string "object"),
    (.string "properties", .object [(.string "a", .int 1)])]

/-- What is no schema is not told where it stands: no defect stands at the location. -/
theorem defect_untold_below_property : ∃ location,
    (validate looseSchema (.object [(.string "a", .int 0)]) .start).result =
        .error (.schema (.notASchema "int") location) ∧
      ¬∃ q defect, looseSchema.HasDefect q defect ∧ location.text = "#" ++ pathText q := by
  obtain ⟨location, h, htext⟩ := exists_of_toldDefect? (show toldDefect? (validate looseSchema
    (.object [(.string "a", .int 0)]) .start).result =
      (some (.notASchema "int", "#") : Option (SchemaDefect × Text)) by decide +kernel)
  refine ⟨location, h, ?_⟩
  rintro ⟨q, defect, hd, hq⟩
  rw [htext] at hq
  have hroot : q = [] := eq_nil_of_pathText (Text.append_eq_left_iff.1 hq.symm)
  cases hd with
  | node hv hs =>
    subst hroot
    cases hv
    cases hs
  | pattern => simp at hroot
  | key => simp at hroot

end Validation

end JsonSchema
