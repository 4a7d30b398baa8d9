import JsonSchema.Document.Json
import JsonSchema.Proofs.Carried.Verdict
import JsonSchema.Value.Indented
import Mathlib.Algebra.Group.Nat.Defs
import Mathlib.Data.List.Induction

/-!
Values that JSON has a form for.

A value has a JSON form if its keys at every depth are strings, numbers, booleans or null, and its
integers are within the limit on digits. Main statements: such a value is written as JSON text, what
validation makes of such values has a JSON form again, be it a result or violations, and what a JSON
document is read as has one.
-/

namespace JsonSchema

/-! ### Values with a JSON form -/

namespace Value

def isJsonKey : Value → Bool
  | string _ | null | bool _ | number _ => true
  | _ => false

/-- Whether JSON has a form for a value, its parts left out. -/
def isJsonPart : Value → Bool
  | number (.int n) => withinDigitLimit n
  | object entries => entries.all fun e => e.1.isJsonKey
  | _ => true

/-- JSON has a form for a value and for all its parts. -/
def HasJsonForm (v : Value) : Prop := v.everyPart isJsonPart = true

instance (v : Value) : Decidable v.HasJsonForm :=
  inferInstanceAs (Decidable (v.everyPart isJsonPart = true))

lemma toNat_lt_pow (b : UInt8) {limit : Nat} (h : 3 ≤ limit) : b.toNat < Nat.pow 10 limit :=
  Nat.lt_of_lt_of_le (Nat.lt_trans b.toNat_lt (by decide : 256 < 10 ^ 3))
    (Nat.pow_le_pow_right (by decide) h)

/-- No verdict tells a value without a JSON form, where schema and value have one. -/
lemma isCarried_isJsonPart : IsCarried isJsonPart isJsonKey where
  undefined := rfl
  null := rfl
  bool _ := rfl
  byte b := by
    have hb := @toNat_lt_pow b digitLimit (by decide)
    rw [Value.int, isJsonPart, withinDigitLimit, Int.natAbs_natCast]
    exact decide_eq_true hb
  word _ := rfl
  letter _ _ _ _ := rfl
  name _ _ := rfl
  array _ _ := rfl
  object entries := List.all_eq_true

lemma hasJsonForm_array {kind : ArrayKind} {items : List Value} :
    (array kind items).HasJsonForm ↔ ∀ v ∈ items, v.HasJsonForm :=
  isCarried_isJsonPart.everyPart_array

lemma hasJsonForm_object {entries : Entries} : (object entries).HasJsonForm ↔
    ∀ e ∈ entries, e.1.isJsonKey = true ∧ e.1.HasJsonForm ∧ e.2.HasJsonForm :=
  isCarried_isJsonPart.everyPart_object

lemma hasJsonForm_int {n : Int} : (number (.int n)).HasJsonForm ↔ withinDigitLimit n = true := by
  simp only [HasJsonForm, everyPart, isJsonPart]

@[simp] lemma hasJsonForm_string (s : Text) : (string s).HasJsonForm := rfl

@[simp] lemma hasJsonForm_nil : (object []).HasJsonForm := rfl

end Value

/-! ### JSON text -/

namespace Value

lemma hasAnswer_json {x : Number} (h : (number x).HasJsonForm) : HasAnswer x.json := by
  cases x with
  | int n =>
    simp only [Number.json, hasJsonForm_int.1 h, if_true]
    exact hasAnswer_ok _
  | double d => cases d <;> exact hasAnswer_ok _

lemma hasAnswer_map {α β : Type} {x : Except Fault α} (f : α → β) (h : HasAnswer x) :
    HasAnswer (x.map f) := by
  obtain ⟨a, rfl⟩ := h
  exact hasAnswer_ok _

lemma hasAnswer_keyText {key : Value} (hk : key.isJsonKey = true) (h : key.HasJsonForm) :
    HasAnswer key.keyText := by
  cases key with
  | number x => exact hasAnswer_map _ (hasAnswer_json h)
  | string | null | bool => exact hasAnswer_ok _
  | _ => cases hk

mutual

/-- A value that JSON has a form for is written. -/
theorem hasAnswer_indented (q : Quoting) : (level : Nat) → (v : Value) → v.HasJsonForm →
    HasAnswer (indented q level v)
  | _, number _, h => hasAnswer_map _ (hasAnswer_json h)
  | level, array _ items, h =>
    hasAnswer_map _ (hasAnswer_indentedItems q (level + 1) items (hasJsonForm_array.1 h))
  | level, object entries, h =>
    hasAnswer_map _ (hasAnswer_indentedEntries q (level + 1) entries (hasJsonForm_object.1 h))
  | _, undefined, _ | _, null, _ | _, bool _, _ | _, string _, _ | _, date _, _
  | _, datetime _, _ | _, bytes _, _ | _, set _, _ => ⟨_, rfl⟩

theorem hasAnswer_indentedItems (q : Quoting) : (level : Nat) → (items : List Value) →
    (∀ v ∈ items, v.HasJsonForm) → HasAnswer (indentedItems q level items)
  | _, [], _ => hasAnswer_ok _
  | level, v :: rest, h => by
    refine (hasAnswer_bind_of fun _ _ => ?_).2 (hasAnswer_indented q level v (h v (by simp)))
    refine (hasAnswer_bind_of fun _ _ => hasAnswer_pure _).2 ?_
    exact hasAnswer_indentedItems q level rest fun w hw => h w (by simp [hw])

theorem hasAnswer_indentedEntries (q : Quoting) : (level : Nat) → (entries : List (Value × Value)) →
    (∀ e ∈ entries, isJsonKey e.1 = true ∧ HasJsonForm e.1 ∧ HasJsonForm e.2) →
    HasAnswer (indentedEntries q level entries)
  | _, [], _ => hasAnswer_ok _
  | level, (k, v) :: rest, h => by
    obtain ⟨hkey, hk, hv⟩ := h (k, v) (by simp)
    refine (hasAnswer_bind_of fun _ _ => ?_).2 (hasAnswer_keyText hkey hk)
    refine (hasAnswer_bind_of fun _ _ => ?_).2 (hasAnswer_indented q level v hv)
    refine (hasAnswer_bind_of fun _ _ => hasAnswer_pure _).2 ?_
    exact hasAnswer_indentedEntries q level rest fun e he => h e (by simp [he])

end

end Value

/-! ### Verdicts -/

namespace Verdict

open Value

variable {verdict : Verdict}

lemma hasJsonForm_violationFields {violation : Violation}
    (h : HoldsOf isJsonPart violation.values) : (violationFields violation).HasJsonForm := by
  obtain ⟨hvalue, h⟩ := holdsOf_cons.1 h
  refine hasJsonForm_object.2 fun e he => ?_
  rw [List.mem_append] at he
  rcases he with he | he
  · split at he
    · obtain rfl := List.mem_singleton.1 he
      exact ⟨rfl, rfl, hvalue⟩
    · cases he
  · simp only [List.mem_cons, List.not_mem_nil, or_false] at he
    rcases he with rfl | rfl | rfl | rfl
    · exact ⟨rfl, rfl, (holdsOf_cons.1 h).1⟩
    all_goals exact ⟨rfl, rfl, rfl⟩

/-- A verdict is written in JSON text where all that it tells is. -/
lemma hasJsonForm_toValue (h : HoldsOf isJsonPart verdict.values) :
    verdict.toValue.HasJsonForm := by
  cases verdict with
  | valid result =>
    refine hasJsonForm_object.2 fun e he => ?_
    rcases List.mem_cons.1 he with rfl | he
    · exact ⟨rfl, rfl, rfl⟩
    · split at he
      · cases he
      · obtain rfl := List.mem_singleton.1 he
        exact ⟨rfl, rfl, h result List.mem_cons_self⟩
  | invalid violations =>
    refine hasJsonForm_object.2 fun e he => ?_
    simp only [List.mem_cons, List.not_mem_nil, or_false] at he
    rcases he with rfl | rfl
    · exact ⟨rfl, rfl, rfl⟩
    · refine ⟨rfl, rfl, hasJsonForm_array.2 fun v hv => ?_⟩
      obtain ⟨violation, hm, rfl⟩ := List.mem_map.1 hv
      exact hasJsonForm_violationFields (holdsOf_flatMap.1 h violation hm)

end Verdict

/-! ### Documents -/

namespace Json

lemma digitsValue_lt {ds : List Char} (h : ∀ c ∈ ds, c.isDigit = true) :
    digitsValue ds < 10 ^ ds.length := by
  induction ds using List.reverseRecOn with
  | nil => exact Nat.one_pos
  | append_singleton ds c ih =>
    have hds := ih fun d hd => h d (List.mem_append_left _ hd)
    have hc : c.toNat - 48 < 10 := by
      have hdigit := h c (by simp)
      simp only [Char.isDigit, Bool.and_eq_true, decide_eq_true_eq] at hdigit
      have : c.toNat ≤ 57 := hdigit.2
      omega
    simp only [digitsValue, List.foldl_append, List.foldl_cons, List.foldl_nil,
      List.length_append, List.length_cons, List.length_nil] at hds ⊢
    rw [Nat.pow_succ]
    omega

lemma digitsValue_lt_of_length {ds : List Char} {limit : Nat} (h : ∀ c ∈ ds, c.isDigit = true)
    (hlength : ds.length ≤ limit) : digitsValue ds < Nat.pow 10 limit :=
  Nat.lt_of_lt_of_le (digitsValue_lt h) (Nat.pow_le_pow_right (by decide) hlength)

lemma isDigit_of_mem_span {cs : List Char} : ∀ c ∈ (cs.span Char.isDigit).1, c.isDigit = true := by
  simp only [List.span_eq_takeWhile_dropWhile]
  exact fun c hc => List.all_eq_true.1 (List.all_takeWhile) c hc

lemma isDigit_of_mem_wholeDigits {cs : List Char} :
    ∀ c ∈ (wholeDigits cs).1, c.isDigit = true := by
  unfold wholeDigits
  split
  · simp
  · exact isDigit_of_mem_span

lemma hasJsonForm_integer {negative : Bool} {ds : List Char} (h : ∀ c ∈ ds, c.isDigit = true)
    {v : Value} (hv : integer negative ds = .ok v) : v.HasJsonForm := by
  unfold integer at hv
  split at hv
  · cases hv
  · rename_i hlength
    cases hv
    have habs : (if negative then -(digitsValue ds : Int) else digitsValue ds).natAbs
        = digitsValue ds := by
      cases negative <;> simp
    have hlt := @digitsValue_lt_of_length ds digitLimit h (Nat.le_of_not_lt hlength)
    rw [Value.int, Value.hasJsonForm_int, withinDigitLimit, habs]
    exact decide_eq_true hlt

section

variable {fuel : Nat} {cs rest : List Char} {v : Value}

lemma hasJsonForm_unsigned {start : List Char} {negative : Bool}
    (h : unsigned start negative cs = .ok (v, rest)) : v.HasJsonForm := by
  have hdigits := @isDigit_of_mem_wholeDigits cs
  unfold unsigned at h
  split at h
  · cases h
  · rename_i whole rest' hne hw
    simp only [hw] at hdigits
    simp only at h
    split at h
    · cases h
      rfl
    · split at h
      · obtain ⟨n, hn, heq⟩ := except_map_eq_ok.1 h
        cases heq
        exact hasJsonForm_integer hdigits hn
      · cases h
        rfl

lemma hasJsonForm_wordOrNumber (h : wordOrNumber cs = .ok (v, rest)) : v.HasJsonForm := by
  unfold wordOrNumber at h
  split at h
  · rename_i r hr
    cases h
    obtain ⟨w, hw, hm⟩ := List.exists_of_findSome?_eq_some hr
    simp only [Option.map_eq_some_iff, Prod.mk.injEq] at hm
    obtain ⟨-, -, rfl, -⟩ := hm
    have hwords : ∀ w ∈ words, w.2.HasJsonForm := by decide
    exact hwords w hw
  · unfold number at h
    split at h <;> exact hasJsonForm_unsigned h

/-- What is read with some fuel as a value, as elements, or as members behind others, has a JSON
form. -/
structure ReadsForms (fuel : Nat) : Prop where
  value : ∀ cs v rest, value fuel cs = .ok (v, rest) → v.HasJsonForm
  elements : ∀ cs vs rest, elements fuel cs = .ok (vs, rest) → ∀ v ∈ vs, v.HasJsonForm
  members : ∀ cs done es rest, (Value.object done).HasJsonForm →
    members fuel cs done = .ok (es, rest) → (Value.object es).HasJsonForm

lemma readsForms_zero : ReadsForms 0 := ⟨nofun, nofun, nofun⟩

namespace ReadsForms

variable (h : ReadsForms fuel)

include h

lemma value_succ (hv : Json.value (fuel + 1) cs = .ok (v, rest)) : v.HasJsonForm := by
  unfold Json.value at hv
  split at hv
  · obtain ⟨r, -, hr⟩ := except_map_eq_ok.1 hv
    cases hr
    exact Value.hasJsonForm_string _
  · split at hv
    · cases hv
      rfl
    · obtain ⟨r, hr, heq⟩ := except_map_eq_ok.1 hv
      cases heq
      exact h.members _ [] _ _ Value.hasJsonForm_nil hr
  · split at hv
    · cases hv
      rfl
    · obtain ⟨r, hr, heq⟩ := except_map_eq_ok.1 hv
      cases heq
      exact Value.hasJsonForm_array.2 (h.elements _ _ _ hr)
  · exact hasJsonForm_wordOrNumber hv

lemma elements_succ {vs : List Value} (hvs : Json.elements (fuel + 1) cs = .ok (vs, rest)) :
    ∀ v ∈ vs, v.HasJsonForm := by
  obtain ⟨⟨v, behind⟩, hv, hvs⟩ := except_bind_eq_ok.1 hvs
  dsimp only at hvs
  have hform := h.value _ _ _ hv
  split at hvs
  · cases hvs
    simpa using hform
  · obtain ⟨⟨more, behind⟩, hmore, hvs⟩ := except_bind_eq_ok.1 hvs
    cases hvs
    exact List.forall_mem_cons.2 ⟨hform, h.elements _ _ _ hmore⟩
  · cases hvs

lemma members_succ {done es : Entries} (hdone : (Value.object done).HasJsonForm)
    (hes : Json.members (fuel + 1) cs done = .ok (es, rest)) : (Value.object es).HasJsonForm := by
  unfold Json.members at hes
  split at hes
  · obtain ⟨⟨name, behind⟩, -, hes⟩ := except_bind_eq_ok.1 hes
    dsimp only at hes
    split at hes
    · obtain ⟨⟨v, behind⟩, hv, hes⟩ := except_bind_eq_ok.1 hes
      dsimp only at hes
      have hform : (Value.object (done.insert (.string (.ofPoints name)) v)).HasJsonForm :=
        Value.isCarried_isJsonPart.everyPart_insert hdone rfl rfl (h.value _ _ _ hv)
      split at hes
      · cases hes
        exact hform
      · exact h.members _ _ _ _ hform hes
      · cases hes
    · cases hes
  · cases hes

end ReadsForms

lemma readsForms (fuel : Nat) : ReadsForms fuel := by
  induction fuel with
  | zero => exact readsForms_zero
  | succ fuel ih =>
    exact ⟨fun _ _ _ => ih.value_succ, fun _ _ _ => ih.elements_succ,
      fun _ _ _ _ => ih.members_succ⟩

end

/-- What a JSON document is read as has a JSON form. -/
theorem hasJsonForm_document {cs : List Char} {v : Value} (h : document cs = .ok v) :
    v.HasJsonForm := by
  unfold document at h
  split at h
  · cases h
  · obtain ⟨⟨v, behind⟩, hv, h⟩ := except_bind_eq_ok.1 h
    dsimp only at h
    split at h
    · cases h
      exact (readsForms _).value _ _ _ hv
    · cases h

end Json

end JsonSchema
