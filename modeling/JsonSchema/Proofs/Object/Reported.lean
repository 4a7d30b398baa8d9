import JsonSchema.Proofs.Object.Visit
import JsonSchema.Proofs.Related

/-!
The steps of the object checks on two parts that differ in what was reported.

No step looks at the violations so far. Of two parts with the same members and the same consumed
keys, each step makes the same, and reports the same behind what was reported before.
-/

namespace JsonSchema

lemma Outcome.Related.same {α : Type} (x : Outcome α) : Outcome.Related Eq Eq Eq x x :=
  ⟨List.forall₂_eq_eq_eq ▸ rfl, .refl (fun _ => rfl) (fun _ => rfl) x.result⟩

namespace Validation

/-- The same members and consumed keys, and reports that are related. -/
structure PartsRel (reports : List Violation → List Violation → Prop)
    (part part' : ObjectPart) : Prop where
  members : part.members = part'.members
  consumed : part.consumed = part'.consumed
  violations : reports part.violations part'.violations

/-- Reports that stay related when the same is reported behind both. -/
def IsKeptBehind (reports : List Violation → List Violation → Prop) : Prop :=
  ∀ ⦃vs ws : List Violation⦄, reports vs ws → ∀ us, reports (vs ++ us) (ws ++ us)

section

variable {reports : List Violation → List Violation → Prop} {part part' : ObjectPart}

lemma PartsRel.report {vs ws : List Violation} (h : PartsRel reports part part')
    (hr : reports (part.violations ++ vs) (part'.violations ++ ws)) :
    PartsRel reports (part.report vs) (part'.report ws) :=
  ⟨h.members, h.consumed, hr⟩

variable (hkept : IsKeptBehind reports) (h : PartsRel reports part part')

include hkept h

lemma PartsRel.merge (key : Value) (verdict : Verdict) :
    PartsRel reports (part.merge key verdict) (part'.merge key verdict) := by
  refine ⟨?_, ?_, hkept h.violations _⟩
  · simp only [ObjectPart.merge, h.members]
  · simp only [ObjectPart.merge, h.consumed]

lemma mergeVisits_rel (visits : List Visit) :
    Outcome.Related Eq Eq (PartsRel reports) (mergeVisits visits part)
      (mergeVisits visits part') := by
  induction visits generalizing part part' with
  | nil => exact .pure h
  | cons v rest ih =>
    refine .bind_eq (.same _) fun verdict => .bind_eq (.same _) fun suppressed => ?_
    cases suppressed with
    | true => exact ih h
    | false => exact ih (h.merge hkept v.key verdict)

lemma mergeMatching_rel (pattern child : Value) (place : Place) (members : Entries) :
    Outcome.Related Eq Eq (PartsRel reports)
      (mergeMatching validate pattern child place members part)
      (mergeMatching validate pattern child place members part') := by
  induction members generalizing part part' with
  | nil => exact .pure h
  | cons e rest ih =>
    refine .bind_eq (.same _) fun found => ?_
    cases found with
    | true => exact .bind_eq (.same _) fun verdict => ih (h.merge hkept e.1 verdict)
    | false => exact ih h

lemma mergePatterns_rel (children members : Entries) (place : Place) :
    Outcome.Related Eq Eq (PartsRel reports)
      (mergePatterns validate members place children part)
      (mergePatterns validate members place children part') := by
  induction children generalizing part part' with
  | nil => exact .pure h
  | cons e rest ih =>
    exact .bind (mergeMatching_rel hkept h e.1 e.2 place members) fun _ _ hnext => ih hnext

/-- The additional members are the same ones; where they are refused all together, each side tells
it of its own object. -/
lemma additionalPart_rel {keywords keywords' members members' : Entries} {place : Place}
    (hs : keywords.defined? "additionalProperties" = keywords'.defined? "additionalProperties")
    (he : extraMembers members part = extraMembers members' part')
    (hrefused : ∀ reason location, reports
      (part.violations ++ [⟨.object members, .bool false, reason, location, place.value⟩])
      (part'.violations ++ [⟨.object members', .bool false, reason, location, place.value⟩])) :
    Outcome.Related Eq Eq (PartsRel reports)
      (additionalPart validate keywords members place part)
      (additionalPart validate keywords' members' place part') := by
  unfold additionalPart
  simp only [hs, he]
  split
  · exact .pure h
  · split
    · exact .pure ⟨by simp only [h.members], h.consumed, h.violations⟩
    · exact .pure ⟨by simp only [h.members], h.consumed, h.violations⟩
    · exact .pure (h.report (hrefused _ _))
    · rw [mergeAdditional_eq, mergeAdditional_eq]
      exact mergeVisits_rel hkept h _

lemma namesPart_rel {keywords keywords' : Entries}
    (hs : keywords.defined? "propertyNames" = keywords'.defined? "propertyNames")
    (members : Entries) (place : Place) :
    Outcome.Related Eq Eq (PartsRel reports) (namesPart validate keywords members place part)
      (namesPart validate keywords' members place part') := by
  unfold namesPart
  rw [hs]
  split
  · exact .pure h
  · exact .bind_eq (.same _) fun violations => .pure (h.report (hkept h.violations violations))

end

end Validation

end JsonSchema
