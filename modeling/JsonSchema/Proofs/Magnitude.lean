import JsonSchema.Proofs.Keyword
import JsonSchema.Proofs.Number

/-!
The checks of a number without their faults.

Nodes of type number and of type integer apply the same checks, to which the latter add one of their
own. Main statements: the verdict on a number in closed form, and when there is one.
-/

namespace JsonSchema

/-- The types whose checks are those of numbers. -/
def JsonType.isNumeric : JsonType → Bool
  | number | integer => true
  | _ => false

namespace Validation

open Outcome

lemma hasAnswer_reportIf_iff {failed : Bool} {reason : Reason} :
    HasAnswer (reportIf failed reason) ↔ failed = false ∨ reason.canShow = true := by
  unfold reportIf
  cases failed <;> cases reason.canShow <;> simp

/-! ### Refusals -/

/-- What is reported of a bound. -/
def boundRefusals (keywords : Entries) (x : Number) (bound : Bound) : List Reason :=
  match keywords.given? bound.keyword with
  | some limit => if limit.asNumber?.any (bound.isViolated x) then [.outside bound limit] else []
  | none => []

def multipleRefusals (keywords : Entries) (x : Number) : List Reason :=
  match keywords.given? "multipleOf" with
  | some divisor =>
    if divisor.asNumber?.all fun d => !d.isZero && !x.isMultipleOf d then [.multipleOf divisor]
    else []
  | none => []

def wholeRefusals (type : JsonType) (x : Number) : List Reason :=
  if type = .integer ∧ x.isIntegral = false then [.notInteger] else []

def numberRefusals (type : JsonType) (keywords : Entries) (x : Number) : List Reason :=
  wholeRefusals type x ++ guardRefusals keywords .number .plain (.number x)
    ++ Bound.all.flatMap (boundRefusals keywords x) ++ multipleRefusals keywords x

section

variable {keywords : Entries} {x : Number} {reasons : List Reason}

lemma boundReasons_eq_ok {bound : Bound} (h : boundReasons keywords x bound = .ok reasons) :
    reasons = boundRefusals keywords x bound := by
  unfold boundReasons whenGiven at h
  unfold boundRefusals
  cases hl : keywords.given? bound.keyword with
  | none =>
    simp only [hl] at h
    cases h
    rfl
  | some limit =>
    simp only [hl] at h
    obtain ⟨y, hy, h⟩ := except_bind_eq_ok.1 h
    simp only [comparable_eq_ok hy, Option.any_some]
    exact reportIf_eq_ok h

lemma multipleReasons_eq_ok (h : multipleReasons keywords x = .ok reasons) :
    reasons = multipleRefusals keywords x := by
  unfold multipleReasons whenGiven at h
  unfold multipleRefusals
  cases hd : keywords.given? "multipleOf" with
  | none =>
    simp only [hd] at h
    cases h
    rfl
  | some divisor =>
    simp only [hd] at h
    cases hn : divisor.asNumber? with
    | some d =>
      simp only [hn] at h
      simp only [hn, Option.all_some]
      exact reportIf_eq_ok h
    | none =>
      simp only [hn] at h
      simp only [hn, Option.all_none, if_true]
      split at h
      · cases h
      · exact reportIf_eq_ok h

lemma magnitudeReasons_eq_ok (h : magnitudeReasons keywords x = .ok reasons) :
    reasons = Bound.all.flatMap (boundRefusals keywords x) ++ multipleRefusals keywords x := by
  unfold magnitudeReasons at h
  obtain ⟨minimum, hmin, h⟩ := except_bind_eq_ok.1 h
  obtain ⟨exclusiveMinimum, hemin, h⟩ := except_bind_eq_ok.1 h
  obtain ⟨maximum, hmax, h⟩ := except_bind_eq_ok.1 h
  obtain ⟨exclusiveMaximum, hemax, h⟩ := except_bind_eq_ok.1 h
  obtain ⟨multiple, hmul, h⟩ := except_bind_eq_ok.1 h
  cases h
  rw [boundReasons_eq_ok hmin, boundReasons_eq_ok hemin, boundReasons_eq_ok hmax,
    boundReasons_eq_ok hemax, multipleReasons_eq_ok hmul]
  simp [Bound.all]

/-- The bounds and the divisor can all be applied. -/
structure MagnitudeSettles (keywords : Entries) (x : Number) : Prop where
  bounds : ∀ bound, HasAnswer (boundReasons keywords x bound)
  multiple : HasAnswer (multipleReasons keywords x)

lemma hasAnswer_magnitude_iff :
    HasAnswer (magnitudeReasons keywords x) ↔ MagnitudeSettles keywords x := by
  unfold magnitudeReasons
  constructor
  · intro h
    obtain ⟨_, hmin, h⟩ := JsonSchema.hasAnswer_bind.1 h
    obtain ⟨_, hemin, h⟩ := JsonSchema.hasAnswer_bind.1 h
    obtain ⟨_, hmax, h⟩ := JsonSchema.hasAnswer_bind.1 h
    obtain ⟨_, hemax, h⟩ := JsonSchema.hasAnswer_bind.1 h
    obtain ⟨_, hmul, -⟩ := JsonSchema.hasAnswer_bind.1 h
    refine ⟨fun bound => ?_, ⟨_, hmul⟩⟩
    cases bound
    · exact ⟨_, hmin⟩
    · exact ⟨_, hemin⟩
    · exact ⟨_, hmax⟩
    · exact ⟨_, hemax⟩
  · rintro ⟨hbounds, hmultiple⟩
    refine (hasAnswer_bind_of fun _ _ => ?_).2 (hbounds .minimum)
    refine (hasAnswer_bind_of fun _ _ => ?_).2 (hbounds .exclusiveMinimum)
    refine (hasAnswer_bind_of fun _ _ => ?_).2 (hbounds .maximum)
    refine (hasAnswer_bind_of fun _ _ => ?_).2 (hbounds .exclusiveMaximum)
    exact (hasAnswer_bind_of fun _ _ => hasAnswer_pure _).2 hmultiple

end

/-! ### The verdict on a number -/

def numericReasons (type : JsonType) (keywords : Entries) (value : Value) : Reasons :=
  if type = .integer then integerReasons keywords value else numberReasons keywords value

section

variable {type : JsonType} {keywords : Entries} {place : Place} {value : Value} {x : Number}
  {verdict : Verdict}

lemma validate_numeric (ht : keywords.declaredType = .one type) (htype : type.isNumeric = true)
    (hv : value.isUndefined = false) :
    (validate (.object keywords) value place).result =
      (numericReasons type keywords value).map fun reasons =>
        verdictOf value (violationsAt keywords value place reasons) := by
  rw [validate_keywords, validateKeywords_eq, if_neg (by simp [hv]), ht]
  have hscalar : ∀ reasons : Reasons, (scalarVerdict keywords value place reasons).result =
      reasons.map fun reasons => verdictOf value (violationsAt keywords value place reasons) := by
    intro reasons
    cases reasons <;> rfl
  cases type with
  | number => exact hscalar _
  | integer => exact hscalar _
  | _ => cases htype

/-- There is a verdict if the checks have an answer. -/
lemma hasAnswer_validate_numeric (ht : keywords.declaredType = .one type)
    (htype : type.isNumeric = true) (hv : value.isUndefined = false) :
    HasAnswer (validate (.object keywords) value place).result ↔
      HasAnswer (numericReasons type keywords value) := by
  rw [validate_numeric ht htype hv]
  cases numericReasons type keywords value <;> simp [Except.map]

/-- What is accepted stays as it is. -/
lemma validate_numeric_eq_valid (ht : keywords.declaredType = .one type)
    (htype : type.isNumeric = true) (hv : value.isUndefined = false) {w : Value} :
    (validate (.object keywords) value place).result = .ok (.valid w) ↔
      numericReasons type keywords value = .ok [] ∧ value = w := by
  rw [validate_numeric ht htype hv, except_map_eq_ok]
  constructor
  · rintro ⟨reasons, hr, hw⟩
    obtain ⟨hn, rfl⟩ := verdictOf_eq_valid.1 hw
    obtain rfl : reasons = [] := by simpa [violationsAt] using hn
    exact ⟨hr, rfl⟩
  · rintro ⟨hr, rfl⟩
    exact ⟨[], hr, rfl⟩

lemma numericReasons_eq_ok {reasons : List Reason} (htype : type.isNumeric = true)
    (h : numericReasons type keywords (.number x) = .ok reasons) :
    reasons = numberRefusals type keywords x := by
  have hnumber : ∀ {found}, numberReasons keywords (.number x) = .ok found →
      found = guardRefusals keywords .number .plain (.number x)
        ++ Bound.all.flatMap (boundRefusals keywords x) ++ multipleRefusals keywords x := by
    intro found h
    obtain ⟨guard, hg, h⟩ := except_bind_eq_ok.1 h
    obtain ⟨magnitude, hm, h⟩ := except_bind_eq_ok.1 h
    cases h
    rw [guardReasons_eq_ok hg, magnitudeReasons_eq_ok hm, List.append_assoc]
  unfold numberRefusals wholeRefusals
  cases type with
  | number =>
    rw [hnumber h]
    rfl
  | integer =>
    obtain ⟨found, hf, h⟩ := except_bind_eq_ok.1 h
    rw [hnumber hf] at h
    cases hi : x.isIntegral <;> simp only [hi] at h <;> cases h <;> simp
  | _ => cases htype

/-- Only numbers pass the checks of numbers. -/
lemma exists_number_of_numericReasons (htype : type.isNumeric = true)
    (h : numericReasons type keywords value = .ok []) : ∃ x, value = .number x := by
  have hnumber : numberReasons keywords value = .ok [] → ∃ x, value = .number x := by
    intro h
    obtain ⟨guard, hg, h⟩ := except_bind_eq_ok.1 h
    cases value with
    | number x => exact ⟨x, rfl⟩
    | _ =>
      obtain rfl : guard = [] := Except.ok.inj h
      have hguard := guardReasons_eq_ok hg
      simp [guardRefusals, typeReasons, Value.mismatch?, Value.kindName, JsonType.name] at hguard
  cases type with
  | number => exact hnumber h
  | integer =>
    obtain ⟨found, hf, h⟩ := except_bind_eq_ok.1 h
    cases value with
    | number x => exact ⟨x, rfl⟩
    | _ => exact hnumber (hf.trans h)
  | _ => cases htype

/-- Of other values nothing but the type and the literals is checked. -/
lemma hasAnswer_numericReasons_of_ne (htype : type.isNumeric = true)
    (hx : ∀ x, value ≠ .number x) : HasAnswer (numericReasons type keywords value) ↔
      HasAnswer (guardReasons keywords .number .plain value) := by
  have hnumber : HasAnswer (numberReasons keywords value) ↔
      HasAnswer (guardReasons keywords .number .plain value) := by
    refine hasAnswer_bind_of fun _ _ => ?_
    cases value with
    | number x => exact absurd rfl (hx x)
    | _ => exact hasAnswer_pure _
  cases type with
  | number => exact hnumber
  | integer =>
    refine (hasAnswer_bind_of fun _ _ => ?_).trans hnumber
    cases value <;> exact hasAnswer_pure _
  | _ => cases htype

/-- The checks have an answer if the literals, the bounds and the divisor can all be applied. -/
lemma hasAnswer_numericReasons_iff (htype : type.isNumeric = true) :
    HasAnswer (numericReasons type keywords (.number x)) ↔
      HasAnswer (guardReasons keywords .number .plain (.number x)) ∧
        MagnitudeSettles keywords x := by
  have hnumber : HasAnswer (numberReasons keywords (.number x)) ↔
      HasAnswer (guardReasons keywords .number .plain (.number x)) ∧
        MagnitudeSettles keywords x := by
    rw [← hasAnswer_magnitude_iff]
    constructor
    · intro h
      obtain ⟨guard, hg, h⟩ := JsonSchema.hasAnswer_bind.1 h
      exact ⟨⟨guard, hg⟩, (hasAnswer_bind_of fun _ _ => hasAnswer_pure _).1 h⟩
    · rintro ⟨⟨guard, hg⟩, hm⟩
      exact JsonSchema.hasAnswer_bind.2
        ⟨guard, hg, (hasAnswer_bind_of fun _ _ => hasAnswer_pure _).2 hm⟩
  cases type with
  | number => exact hnumber
  | integer => exact (hasAnswer_bind_of fun _ _ => hasAnswer_pure _).trans hnumber
  | _ => cases htype

/-- **The verdict on a number**: the reasons to refuse it, in their order, or the number itself. -/
theorem verdict_on_number (ht : keywords.declaredType = .one type) (htype : type.isNumeric = true)
    (h : (validate (.object keywords) (.number x) place).result = .ok verdict) :
    verdict = verdictOf (.number x)
      (violationsAt keywords (.number x) place (numberRefusals type keywords x)) := by
  rw [validate_numeric ht htype rfl] at h
  obtain ⟨reasons, hr, rfl⟩ := except_map_eq_ok.1 h
  rw [numericReasons_eq_ok htype hr]

end

end Validation

end JsonSchema
