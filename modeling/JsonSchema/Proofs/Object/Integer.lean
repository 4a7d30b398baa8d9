import JsonSchema.Proofs.Object.Stable
import JsonSchema.Proofs.Relocation
import JsonSchema.Proofs.Rounding

/-!
An integer as the only member of an object.

Whether a refused member is falsy is asked of a double, so the question has no answer for an integer
that counts as none. Main statement: a node that puts an integer to a schema has a verdict exactly
if the schema accepts the integer or some double is near to it, and then it reports what the schema
does of every integer but zero.
-/

namespace JsonSchema

open Validation Outcome

attribute [local irreducible] Double.unit

/-! ### Falsy integers -/

lemma Number.isZero_int {n : ℤ} : isZero (.int n) = true ↔ n = 0 := by
  rw [isZero, eq_iff]
  simp [rank?, isNaN, Double.unit_ne_zero]

namespace Value

variable {n : ℤ}

lemma falsy_int : (Value.int n).falsy = true ↔ n = 0 := by
  simp [falsy, Value.int, Number.isZero_int, Number.isNaN]

/-- Whether an integer is falsy is known of those that count as a double; zero is one of them. -/
lemma hasAnswer_isFalsy_int :
    HasAnswer (Value.int n).isFalsy ↔ n.natAbs + 2 ^ 970 < 2 ^ 1024 := by
  by_cases hn : n = 0
  · have hlt : 2 ^ 970 < 2 ^ 1024 := pow_lt_pow_right₀ Nat.one_lt_two (by decide)
    simp only [Value.int, isFalsy, Number.isZero_int.2 hn, if_true, hasAnswer_ok, true_iff]
    rwa [hn, Int.natAbs_zero, Nat.zero_add]
  · have hz : Number.isZero (.int n) = false := by
      rw [← Bool.not_eq_true, Number.isZero_int]
      exact hn
    rw [← Double.isSome_ofInt?_iff]
    simp only [Value.int, isFalsy, hz, Bool.false_eq_true, if_false, Number.toDouble?_int]
    cases Double.ofInt? n <;> simp

end Value

namespace Visit

/-- What a schema says of a value is what it says from the hash signs, moved to the place. -/
lemma verdict_rel {v : Visit} {own : Verdict}
    (h : (validate v.schema v.value .start).result = .ok own) :
    v.Answers ∧ Verdict.Rel (Violation.MovedTo v.place) own v.verdict := by
  have hmoved := validate_moved v.schema v.value v.place
  rw [h] at hmoved
  cases hresult : (validate v.schema v.value v.place).result with
  | error fault =>
    rw [hresult] at hmoved
    cases hmoved
  | ok verdict =>
    rw [hresult] at hmoved
    rw [verdict_eq hresult]
    cases hmoved with
    | ok hrel => exact ⟨⟨verdict, hresult⟩, hrel⟩

end Visit

namespace Validation

/-- A node of type object that checks nothing but the members under a schema of their own. -/
structure MembersOnly (keywords : Entries) : Prop where
  type : keywords.named? "type" = some (.string "object")
  lacks : keywords.Lacks ["const", "enum", "required", "patternProperties", "propertyNames",
    "minProperties", "maxProperties"]

/-- How a node puts the member under a key to a schema, and at which place: as the one property that
it declares, or as an additional one. -/
inductive Puts (keywords : Entries) (key : Value) (child : Entries) (place : Place) : Place → Prop
  | declared (h : keywords.named? "properties" = some (.object [(key, .object child)]))
    (hn : keywords.named? "additionalProperties" = none) :
    Puts keywords key child place (place.property "properties" key)
  | additional (h : keywords.named? "additionalProperties" = some (.object child))
    (hn : keywords.named? "properties" = none) :
    Puts keywords key child place (place.additionalProperty key)

namespace MembersOnly

variable {keywords members : Entries} {place : Place} (h : MembersOnly keywords)

include h

lemma requiredReasons_eq : requiredReasons keywords members = .ok [] :=
  requiredReasons_of_absent members (h.lacks _ (by simp))

/-- Nothing is reported but of declared and of additional members. -/
lemma objectViolations_eq : objectViolations keywords members place =
    ((declaredVisits keywords members place).flatMap fun v =>
      if v.value.falsy then [] else v.violations) ++
      additionalViolations keywords members place := by
  rw [objectViolations_of_lacks (h.lacks.mono (by simp)),
    ← requiredReasons_eq_ok h.requiredReasons_eq]
  rfl

/-- Nothing can fail but what is asked of declared and of additional members. -/
lemma settles_iff : ObjectSettles keywords members place ↔
    HasAnswer (keywords.children "properties") ∧
      (∀ v ∈ declaredVisits keywords members place, v.Settles) ∧
      AdditionalSettles keywords members place := by
  rw [objectSettles_of_lacks (h.lacks.mono (by simp)), h.requiredReasons_eq]
  exact and_iff_right (hasAnswer_ok _)

end MembersOnly

/-! ### The visit of the only member -/

variable {keywords child : Entries} {key value : Value} {place spot : Place}

/-- The only visit that a node makes, as a declared property or as an additional one. -/
inductive VisitsOnce (keywords members : Entries) (place : Place) (visit : Visit) : Prop
  | declared (hd : declaredVisits keywords members place = [visit])
    (ha : additionalSchema keywords = .bool true)
  | additional (hd : declaredVisits keywords members place = [])
    (hv : additionalVisits keywords members place = [visit])
    (ha : ∃ child, additionalSchema keywords = .object child)

lemma Puts.hasAnswer_children (h : Puts keywords key child place spot) :
    HasAnswer (keywords.children "properties") := by
  unfold Entries.children
  cases h with
  | declared hp => exact hp ▸ hasAnswer_ok _
  | additional _ hn => exact hn ▸ hasAnswer_ok _

lemma get_self (key value : Value) : Entries.get [(key, value)] key = value := by
  rw [Entries.get, Entries.get?_cons, if_pos (Value.same_self key)]
  rfl

namespace MembersOnly

variable (h : MembersOnly keywords)

include h

lemma visitsOnce (hputs : Puts keywords key child place spot) (hv : value.isUndefined = false) :
    VisitsOnce keywords [(key, value)] place ⟨key, .object child, value, spot⟩ := by
  cases hputs with
  | declared hp hn =>
    refine .declared ?_ (by simp [additionalSchema, Entries.defined?, hn])
    rw [declaredVisits, childrenOf_of_object hp]
    simp [declaredVisit, get_self]
  | additional ha hn =>
    have hdeclared : declaredVisits keywords [(key, value)] place = [] := by
      simp [declaredVisits, childrenOf, Entries.children, hn, Except.toOption]
    have hschema : additionalSchema keywords = .object child := by
      rw [additionalSchema, Entries.defined?, ha]
      rfl
    have hpatterns : childrenOf keywords "patternProperties" = [] :=
      childrenOf_eq (Entries.children_of_absent (h.lacks _ (by simp)))
    have hextra : extras keywords [(key, value)] place = [(key, value)] := by
      simp [extras, isExtra, hdeclared, hpatterns, hv]
    refine .additional hdeclared ?_ ⟨child, hschema⟩
    rw [additionalVisits, hextra, hschema]
    rfl

end MembersOnly

namespace VisitsOnce

variable {members : Entries} {visit : Visit} (hv : VisitsOnce keywords members place visit)
  (h : MembersOnly keywords)

include hv h

lemma objectViolations_eq : objectViolations keywords members place =
    if visit.value.falsy then [] else visit.violations := by
  rw [h.objectViolations_eq]
  cases hv with
  | declared hd ha => simp [hd, additionalViolations, ha]
  | additional hd hv ha =>
    obtain ⟨child, hchild⟩ := ha
    simp [hd, hv, additionalViolations, hchild]

/-- Apart from the visit nothing can fail. -/
lemma settles_iff (hp : HasAnswer (keywords.children "properties")) :
    ObjectSettles keywords members place ↔ visit.Settles := by
  rw [h.settles_iff]
  cases hv with
  | declared hd ha => simp [hp, hd, additionalSettles_of_true ha]
  | additional hd hv ha =>
    obtain ⟨child, hchild⟩ := ha
    simp [hp, hd, hv, AdditionalSettles, hchild]

end VisitsOnce

lemma hasClearKeys_singleton (e : Value × Value) : Entries.HasClearKeys [e] := by
  intro f hf g hg _
  rw [List.mem_singleton.1 hf, List.mem_singleton.1 hg]

/-- A refused integer is asked whether it is falsy, an accepted one is not. -/
lemma hasAnswer_integer_member {n : ℤ} {own : Verdict} (h : MembersOnly keywords)
    (hputs : Puts keywords key child place spot)
    (hown : (validate (.object child) (.int n) .start).result = .ok own) :
    HasAnswer (validate (.object keywords) (.object [(key, .int n)]) place).result ↔
      own.isValid = true ∨ n.natAbs + 2 ^ 970 < 2 ^ 1024 := by
  have honce : VisitsOnce keywords [(key, .int n)] place ⟨key, .object child, .int n, spot⟩ :=
    h.visitsOnce hputs rfl
  obtain ⟨hanswers, hrel⟩ := @Visit.verdict_rel ⟨key, .object child, .int n, spot⟩ own hown
  rw [hasAnswer_validate_object h.type (hasClearKeys_singleton _),
    honce.settles_iff h hputs.hasAnswer_children, Visit.Settles, ← hrel.isValid_eq,
    Value.hasAnswer_isFalsy_int]
  exact and_iff_right hanswers

def markKeywords : Entries := [(.string "type", .string "string")]

def markedKeywords : Entries :=
  [(.string "type", .string "object"),
    (.string "properties", .object [(.string "mark", .object markKeywords)])]

lemma membersOnly_markedKeywords : MembersOnly markedKeywords where
  type := by simp [markedKeywords]
  lacks := by decide +kernel

lemma puts_markedKeywords : Puts markedKeywords (.string "mark") markKeywords .start
    (Place.start.property "properties" (.string "mark")) :=
  .declared (by simp [markedKeywords]) (by simp [markedKeywords])

end Validation

end JsonSchema
