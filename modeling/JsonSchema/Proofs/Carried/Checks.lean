import JsonSchema.Proofs.Defects
import JsonSchema.Proofs.Part
import Mathlib.Data.List.TakeDrop

/-!
The values that a verdict tells.

`Verdict.values` are the result, or the values, the schemas, the contents of the reasons and the
keys in the locations of violations. `IsCarried` says of what may hold of values that it is not
lost where they are taken apart, named and put together. Main statements: what is carried, and
holds of all parts of the keywords of a node, holds of all that the reasons of its checks show.
-/

namespace JsonSchema

open Validation Outcome

/-! ### The answers of a computation -/

/-- All answers that a computation may have are so. -/
def AnswersAre {α : Type} (P : α → Prop) (x : Except Fault α) : Prop := ∀ a, x = .ok a → P a

namespace AnswersAre

variable {α β : Type} {P : α → Prop} {Q : β → Prop}

lemma ok {a : α} (h : P a) : AnswersAre P (.ok a) := by
  rintro _ ⟨⟩
  exact h

lemma error (fault : Fault) : AnswersAre P (.error fault) := by
  rintro _ ⟨⟩

lemma bind {x : Except Fault α} {f : α → Except Fault β} (h : AnswersAre P x)
    (hf : ∀ a, P a → AnswersAre Q (f a)) : AnswersAre Q (x >>= f) := by
  intro b hb
  obtain ⟨a, ha, hb⟩ := except_bind_eq_ok.1 hb
  exact hf a (h a ha) b hb

lemma map {x : Except Fault α} {f : α → β} (h : AnswersAre P x) (hf : ∀ a, P a → Q (f a)) :
    AnswersAre Q (x.map f) := by
  intro b hb
  obtain ⟨a, ha, rfl⟩ := except_map_eq_ok.1 hb
  exact hf a (h a ha)

lemma pure {a : α} (h : P a) : AnswersAre P (Pure.pure a : Outcome α).result := ok h

lemma andThen {x : Outcome α} {f : α → Outcome β} (h : AnswersAre P x.result)
    (hf : ∀ a, P a → AnswersAre Q (f a).result) : AnswersAre Q (x >>= f).result := by
  intro b hb
  obtain ⟨a, ha, hb⟩ := result_bind_eq_ok.1 hb
  exact hf a (h a ha) b hb

/-- After a computation whose answer is only looked at. -/
lemma after {x : Outcome α} {f : α → Outcome β} (hf : ∀ a, AnswersAre Q (f a).result) :
    AnswersAre Q (x >>= f).result :=
  andThen (P := fun _ => True) (fun _ _ => trivial) fun a _ => hf a

end AnswersAre

/-! ### Values that are told -/

def Reason.values : Reason → List Value
  | const _ literal => [literal]
  | enum _ literals => literals
  | shorterThan v | longerThan v | outside _ v | multipleOf v => [v]
  | fewerProperties v | moreProperties v => [v]
  | pattern text => [.string text]
  | missing names => names.map .string
  | additional keys => keys
  | falseSchema | absent | mismatch .. | notInteger | tupleLength .. | stated _ => []

def Step.values : Step → List Value
  | member key => [key]
  | element _ => []

def Location.values (location : Location) : List Value := location.steps.flatMap Step.values

def Place.values (place : Place) : List Value := place.schema.values ++ place.value.values

def Violation.values (v : Violation) : List Value :=
  v.value :: v.schema :: (v.reason.values ++ (v.schemaLocation.values ++ v.valuePath.values))

def Verdict.values : Verdict → List Value
  | valid result => [result]
  | invalid violations => violations.flatMap Violation.values

/-- Something holds of all parts of some values. -/
def HoldsOf (p : Value → Bool) (vs : List Value) : Prop := ∀ v ∈ vs, v.everyPart p = true

/-- What is carried into every verdict: it holds of words, of what a value is named or taken apart
into, and of collections, as far as the keys of objects allow it. -/
structure IsCarried (p isKey : Value → Bool) : Prop where
  undefined : p .undefined = true
  null : p .null = true
  bool : ∀ b, p (.bool b) = true
  byte : ∀ b : UInt8, p (.int b.toNat) = true
  word : ∀ s : String, p (.string s) = true
  letter : ∀ s : Text, p (.string s) = true →
    ∀ x ∈ s.points, p (.string (.ofPoints [x])) = true
  name : ∀ key : Value, key.everyPart p = true → p (.string key.text) = true
  array : ∀ kind items, p (.array kind items) = true
  object : ∀ entries, p (.object entries) = true ↔ ∀ e ∈ entries, isKey e.1 = true

section

variable {p isKey : Value → Bool} {vs ws : List Value}

lemma holdsOf_nil : HoldsOf p [] := List.forall_mem_nil _

lemma holdsOf_cons {v : Value} : HoldsOf p (v :: vs) ↔ v.everyPart p = true ∧ HoldsOf p vs :=
  List.forall_mem_cons

lemma holdsOf_one {v : Value} (h : v.everyPart p = true) : HoldsOf p [v] :=
  holdsOf_cons.2 ⟨h, holdsOf_nil⟩

lemma holdsOf_append : HoldsOf p (vs ++ ws) ↔ HoldsOf p vs ∧ HoldsOf p ws :=
  List.forall_mem_append

lemma holdsOf_flatMap {α : Type} {f : α → List Value} {xs : List α} :
    HoldsOf p (xs.flatMap f) ↔ ∀ x ∈ xs, HoldsOf p (f x) := by
  simp only [HoldsOf, List.mem_flatMap]
  exact ⟨fun h x hx v hv => h v ⟨x, hx, hv⟩, fun h v ⟨x, hx, hv⟩ => h x hx v hv⟩

/-- A place and each of its parts. -/
lemma holdsOf_place {place : Place} :
    HoldsOf p place.values ↔ HoldsOf p place.schema.values ∧ HoldsOf p place.value.values :=
  holdsOf_append

lemma holdsOf_push {location : Location} {step : Step} (h : HoldsOf p location.values)
    (hstep : HoldsOf p step.values) : HoldsOf p (location.push step).values := by
  rw [Location.values, Location.push, List.flatMap_append]
  exact holdsOf_append.2 ⟨h, holdsOf_append.2 ⟨hstep, holdsOf_nil⟩⟩

lemma Verdict.holdsOf_violations {verdict : Verdict} (h : HoldsOf p verdict.values) :
    ∀ v ∈ verdict.violations, HoldsOf p v.values := by
  cases verdict with
  | valid => exact List.forall_mem_nil _
  | invalid violations => exact holdsOf_flatMap.1 h

namespace IsCarried

variable (hp : IsCarried p isKey)

include hp

lemma everyPart_array {kind : ArrayKind} {items : List Value} :
    (Value.array kind items).everyPart p = true ↔ HoldsOf p items := by
  simp [Value.everyPart, hp.array, HoldsOf]

lemma everyPart_object {entries : Entries} : (Value.object entries).everyPart p = true ↔
    ∀ e ∈ entries, isKey e.1 = true ∧ e.1.everyPart p = true ∧ e.2.everyPart p = true := by
  simp only [Value.everyPart, Bool.and_eq_true, hp.object, Value.everyEntry_iff]
  exact ⟨fun h e he => ⟨h.1 e he, h.2 e he⟩, fun h => ⟨fun e he => (h e he).1,
    fun e he => (h e he).2⟩⟩

lemma everyPart_empty : (Value.object []).everyPart p = true :=
  hp.everyPart_object.2 (List.forall_mem_nil _)

lemma everyPart_get {entries : Entries} (h : (Value.object entries).everyPart p = true)
    (key : Value) : (entries.get key).everyPart p = true :=
  Value.everyPart_of_get h hp.undefined key

/-- Putting in a member under a key that may be one. -/
lemma everyPart_insert {entries : Entries} (h : (Value.object entries).everyPart p = true)
    {key v : Value} (hk : isKey key = true) (hkey : key.everyPart p = true)
    (hv : v.everyPart p = true) : (Value.object (entries.insert key v)).everyPart p = true := by
  rw [hp.everyPart_object] at h ⊢
  induction entries with
  | nil =>
    intro e he
    obtain rfl := List.mem_singleton.1 he
    exact ⟨hk, hkey, hv⟩
  | cons e rest ih =>
    obtain ⟨k, w⟩ := e
    obtain ⟨hhead, hrest⟩ := List.forall_mem_cons.1 h
    unfold Entries.insert
    split
    · exact List.forall_mem_cons.2 ⟨⟨hhead.1, hhead.2.1, hv⟩, hrest⟩
    · exact List.forall_mem_cons.2 ⟨hhead, ih hrest⟩

/-- What a value is taken apart into. -/
lemma holdsOf_elements {v : Value} (h : v.everyPart p = true) :
    AnswersAre (HoldsOf p) v.elements := by
  cases v with
  | array kind items => exact .ok (hp.everyPart_array.1 h)
  | string s => exact .ok (List.forall_mem_map.2 fun x hx => hp.letter s h x hx)
  | object entries =>
    exact .ok (List.forall_mem_map.2 fun e he => (hp.everyPart_object.1 h e he).2.1)
  | bytes bs => exact .ok (List.forall_mem_map.2 fun b _ => hp.byte b)
  | set members =>
    simp only [Value.everyPart, Bool.and_eq_true, Value.everyItem_iff] at h
    exact .ok h.2
  | _ => exact .error _

/-! ### Places -/

section

variable {place : Place} (h : HoldsOf p place.values)

include h

lemma holdsOf_keyword (name : String) : HoldsOf p (place.keyword name).values :=
  holdsOf_place.2 ⟨holdsOf_push (holdsOf_place.1 h).1 (holdsOf_one (hp.word name)),
    (holdsOf_place.1 h).2⟩

lemma holdsOf_property (keyword : String) {name : Value} (hname : name.everyPart p = true) :
    HoldsOf p (place.property keyword name).values :=
  holdsOf_place.2 ⟨holdsOf_push (holdsOf_place.1 (hp.holdsOf_keyword h keyword)).1
    (holdsOf_one hname), holdsOf_push (holdsOf_place.1 h).2 (holdsOf_one hname)⟩

lemma holdsOf_patternProperty {pattern key : Value} (hpattern : pattern.everyPart p = true)
    (hkey : key.everyPart p = true) : HoldsOf p (place.patternProperty pattern key).values :=
  holdsOf_place.2 ⟨holdsOf_push (holdsOf_place.1 (hp.holdsOf_keyword h _)).1
    (holdsOf_one hpattern), holdsOf_push (holdsOf_place.1 h).2 (holdsOf_one hkey)⟩

lemma holdsOf_additionalProperty {key : Value} (hkey : key.everyPart p = true) :
    HoldsOf p (place.additionalProperty key).values :=
  holdsOf_place.2 ⟨(holdsOf_place.1 (hp.holdsOf_keyword h _)).1,
    holdsOf_push (holdsOf_place.1 h).2 (holdsOf_one hkey)⟩

lemma holdsOf_listElement (index : Nat) : HoldsOf p (place.listElement index).values :=
  holdsOf_place.2 ⟨(holdsOf_place.1 (hp.holdsOf_keyword h _)).1,
    holdsOf_push (holdsOf_place.1 h).2 holdsOf_nil⟩

lemma holdsOf_tupleElement (index : Nat) : HoldsOf p (place.tupleElement index).values :=
  holdsOf_place.2 ⟨holdsOf_push (holdsOf_place.1 (hp.holdsOf_keyword h _)).1 holdsOf_nil,
    holdsOf_push (holdsOf_place.1 h).2 holdsOf_nil⟩

end

end IsCarried

end

/-! ### Reasons -/

/-- Something holds of all values that some reasons show. -/
def ReasonsHold (p : Value → Bool) (reasons : List Reason) : Prop :=
  ∀ r ∈ reasons, HoldsOf p r.values

section

variable {p isKey : Value → Bool} {keywords : Entries} {value : Value}

lemma reasonsHold_nil : ReasonsHold p [] := List.forall_mem_nil _

lemma ReasonsHold.append {reasons others : List Reason} (h : ReasonsHold p reasons)
    (h' : ReasonsHold p others) : ReasonsHold p (reasons ++ others) :=
  List.forall_mem_append.2 ⟨h, h'⟩

lemma reasonsHold_reportIf {failed : Bool} {reason : Reason} (h : HoldsOf p reason.values) :
    AnswersAre (ReasonsHold p) (reportIf failed reason) := by
  unfold reportIf
  split
  · split
    · exact .ok (List.forall_mem_singleton.2 h)
    · exact .error _
  · exact .ok reasonsHold_nil

lemma reasonsHold_typeReasons (expected : JsonType) (value : Value) :
    ReasonsHold p (typeReasons expected value) := by
  unfold typeReasons Value.mismatch?
  split
  · exact reasonsHold_nil
  · exact List.forall_mem_singleton.2 holdsOf_nil

section

variable (hs : (Value.object keywords).everyPart p = true)

include hs

lemma everyPart_named? {name : String} {v : Value} (h : keywords.named? name = some v) :
    v.everyPart p = true := Value.everyPart_of_get? hs h

lemma reasonsHold_whenGiven {name : String} {check : Value → Reasons}
    (h : ∀ v : Value, v.everyPart p = true → AnswersAre (ReasonsHold p) (check v)) :
    AnswersAre (ReasonsHold p) (whenGiven keywords name check) := by
  unfold whenGiven
  split
  · rename_i v hv
    exact h v (everyPart_named? hs (Option.filter_eq_some_iff.1 hv).1)
  · exact .ok reasonsHold_nil

/-- A keyword that is compared with a number and shown by one reason. -/
lemma reasonsHold_comparison {name : String} {failed : Number → Bool} {reason : Value → Reason}
    (h : ∀ v, (reason v).values = [v]) : AnswersAre (ReasonsHold p)
      (whenGiven keywords name fun v => do reportIf (failed (← v.comparable)) (reason v)) :=
  reasonsHold_whenGiven hs fun v hv =>
    .bind (P := fun _ => True) (fun _ _ => trivial) fun _ _ =>
      reasonsHold_reportIf (h v ▸ holdsOf_one hv)

lemma reasonsHold_constReasons (form : LiteralForm) (value : Value) :
    AnswersAre (ReasonsHold p) (constReasons keywords form value) := by
  unfold constReasons
  split
  · rename_i literal hd
    exact reasonsHold_reportIf (holdsOf_one (everyPart_named? hs (Entries.named?_of_defined? hd)))
  · exact .ok reasonsHold_nil

variable (hp : IsCarried p isKey)

include hp

lemma reasonsHold_enumReasons (form : LiteralForm) (value : Value) :
    AnswersAre (ReasonsHold p) (enumReasons keywords form value) :=
  reasonsHold_whenGiven hs fun _ hv => .bind (hp.holdsOf_elements hv) fun _ h =>
    reasonsHold_reportIf h

lemma reasonsHold_guardReasons (expected : JsonType) (form : LiteralForm) (value : Value) :
    AnswersAre (ReasonsHold p) (guardReasons keywords expected form value) :=
  .bind (reasonsHold_constReasons hs form value) fun _ hconst =>
    .bind (reasonsHold_enumReasons hs hp form value) fun _ henum =>
      .ok (((reasonsHold_typeReasons expected value).append hconst).append henum)

lemma reasonsHold_patternReasons (text : Text) (location : Location) :
    AnswersAre (ReasonsHold p) (patternReasons keywords text location) :=
  reasonsHold_whenGiven hs fun v hv => .bind (P := fun _ => True) (fun _ _ => trivial) fun _ _ =>
    reasonsHold_reportIf (holdsOf_one (hp.name v hv))

lemma reasonsHold_stringReasons (value : Value) (location : Location) :
    AnswersAre (ReasonsHold p) (stringReasons keywords value location) := by
  refine .bind (reasonsHold_guardReasons hs hp _ _ value) fun guard hguard => ?_
  split
  · rename_i text
    refine .bind (Q := ReasonsHold p) (P := ReasonsHold p) ?_ fun _ h => .ok (hguard.append h)
    refine .bind (reasonsHold_comparison hs fun _ => rfl) fun _ hshort => ?_
    refine .bind (reasonsHold_comparison hs fun _ => rfl) fun _ hlong => ?_
    refine .bind (reasonsHold_patternReasons hs hp text location) fun _ hpattern => ?_
    exact .ok ((hshort.append hlong).append hpattern)
  · exact .ok hguard

omit hp in
lemma reasonsHold_multipleReasons (x : Number) :
    AnswersAre (ReasonsHold p) (multipleReasons keywords x) := by
  refine reasonsHold_whenGiven hs fun v hv => ?_
  split
  · exact reasonsHold_reportIf (holdsOf_one hv)
  · split
    · exact .error _
    · exact reasonsHold_reportIf (holdsOf_one hv)

omit hp in
lemma reasonsHold_magnitudeReasons (x : Number) :
    AnswersAre (ReasonsHold p) (magnitudeReasons keywords x) := by
  have hbound (bound : Bound) : AnswersAre (ReasonsHold p) (boundReasons keywords x bound) :=
    reasonsHold_comparison hs fun _ => rfl
  refine .bind (hbound _) fun _ h₁ => .bind (hbound _) fun _ h₂ => ?_
  refine .bind (hbound _) fun _ h₃ => .bind (hbound _) fun _ h₄ => ?_
  refine .bind (reasonsHold_multipleReasons hs x) fun _ h₅ => ?_
  exact .ok ((((h₁.append h₂).append h₃).append h₄).append h₅)

lemma reasonsHold_numberReasons (value : Value) :
    AnswersAre (ReasonsHold p) (numberReasons keywords value) := by
  refine .bind (reasonsHold_guardReasons hs hp _ _ value) fun guard hguard => ?_
  split
  · exact .bind (reasonsHold_magnitudeReasons hs _) fun _ h => .ok (hguard.append h)
  · exact .ok hguard

lemma reasonsHold_integerReasons (value : Value) :
    AnswersAre (ReasonsHold p) (integerReasons keywords value) := by
  refine .bind (reasonsHold_numberReasons hs hp value) fun reasons h => ?_
  split
  · refine .ok ?_
    split
    · exact h
    · exact List.forall_mem_cons.2 ⟨holdsOf_nil, h⟩
  · exact .ok h

end

/-! ### Required members and counts -/

lemma mem_of_missingNames {defined names missing : List Value}
    (h : missingNames defined names = .ok missing) : ∀ v ∈ missing, v ∈ names := by
  induction names generalizing missing with
  | nil =>
    cases h
    exact List.forall_mem_nil _
  | cons name rest ih =>
    unfold missingNames at h
    split at h
    · cases h
    · obtain ⟨more, hmore, h⟩ := except_bind_eq_ok.1 h
      have hrest := fun v hv => List.mem_cons_of_mem name (ih hmore v hv)
      cases h
      split
      · exact hrest
      · exact List.forall_mem_cons.2 ⟨List.mem_cons_self, hrest⟩

lemma listedNames_eq_ok {values : List Value} {names : List Text}
    (h : listedNames values = .ok names) : values = names.map .string := by
  induction values generalizing names with
  | nil =>
    cases h
    rfl
  | cons v rest ih =>
    cases v with
    | string s =>
      obtain ⟨more, hmore, h⟩ := except_bind_eq_ok.1 h
      cases h
      rw [ih hmore, List.map_cons]
    | _ => cases h

section

variable (hs : (Value.object keywords).everyPart p = true) (members : Entries)

include hs

lemma reasonsHold_requiredReasons (hp : IsCarried p isKey) :
    AnswersAre (ReasonsHold p) (requiredReasons keywords members) := by
  unfold requiredReasons
  split
  · exact .ok reasonsHold_nil
  · rename_i names hn
    have hnames := everyPart_named? hs (Option.filter_eq_some_iff.1 hn).1
    refine .bind (hp.holdsOf_elements hnames) fun elements helements => ?_
    refine .bind (P := HoldsOf p)
      (fun missing hm v hv => helements v (mem_of_missingNames hm v hv)) fun missing hmissing => ?_
    split
    · exact .ok reasonsHold_nil
    · refine .bind (P := fun names => missing = names.map .string) (fun _ => listedNames_eq_ok) ?_
      rintro names rfl
      exact .ok (List.forall_mem_singleton.2 hmissing)

lemma reasonsHold_minCountReasons :
    AnswersAre (ReasonsHold p) (minCountReasons keywords members) := by
  unfold minCountReasons
  split
  · exact .ok reasonsHold_nil
  · rename_i bound hb
    have hbound := everyPart_named? hs (Option.filter_eq_some_iff.1 hb).1
    exact .bind (P := fun _ => True) (fun _ _ => trivial) fun _ _ =>
      reasonsHold_reportIf (holdsOf_one hbound)

lemma reasonsHold_maxCountReasons :
    AnswersAre (ReasonsHold p) (maxCountReasons keywords members) :=
  reasonsHold_comparison hs fun _ => rfl

end

end

end JsonSchema
