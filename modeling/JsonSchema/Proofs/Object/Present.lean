import JsonSchema.Proofs.Object.Reported
import JsonSchema.Proofs.Object.Violations
import JsonSchema.Proofs.SameKey

/-!
An absent member is the same as no member.

An object may hold absent values as members. Main statement: a node that asks neither for patterns,
names, counts nor literals validates such an object as it validates what is present of it: to the
same result or the same fault, and with the same violations, but that each carries its own object.
-/

namespace JsonSchema

open Validation

/-! ### Members that are present -/

/-- The members of an object that are not absent values. -/
def Entries.present (members : Entries) : Entries := List.filter (fun e => !e.2.isUndefined) members

namespace Entries

variable {members : Entries}

lemma mem_present {e : Value × Value} :
    e ∈ members.present ↔ e ∈ members ∧ e.2.isUndefined = false := by
  simp [present]

lemma IsKeyed.present (h : members.IsKeyed) : members.present.IsKeyed :=
  ⟨fun e he => h.keys e (mem_present.1 he).1, h.distinctKeys.filter _⟩

/-- To look up an absent member and to look up none is the same. -/
lemma get_present (h : members.IsKeyed) (key : Value) :
    members.present.get key = members.get key := by
  have hkey {entries : Entries} {k v : Value} (he : entries.IsKeyed) (hm : (k, v) ∈ entries)
      (hsame : Value.same k key = true) : entries.get key = v :=
    he.get_of_same hm (Value.isKey_of_same (he.keys _ hm) hsame) hsame
  cases hu : (members.get key).isUndefined with
  | false =>
    obtain ⟨k, hm, hsame⟩ := mem_of_get hu
    exact hkey h.present (mem_present.2 ⟨hm, hu⟩) hsame
  | true =>
    cases hp : (members.present.get key).isUndefined with
    | false =>
      obtain ⟨k, hm, hsame⟩ := mem_of_get hp
      exact (hkey h (mem_present.1 hm).1 hsame).symm
    | true => rw [Value.eq_undefined hu, Value.eq_undefined hp]

end Entries

namespace Validation

variable {keywords members : Entries} {place : Place}

lemma definedKeys_present (members : Entries) :
    definedKeys members.present = definedKeys members := by
  simp [definedKeys, Entries.present, List.filter_filter]

lemma extraMembers_present (members : Entries) (part : ObjectPart) :
    extraMembers members.present part = extraMembers members part := by
  simp only [extraMembers, Entries.present, List.filter_filter]
  congr 1
  funext e
  cases e.2.isUndefined <;> simp

/-! ### What is told of either object -/

/-- The same violation, or one that is told of the whole object: on one side of all its members, on
the other of those that are present. -/
inductive SameOnPresent (members : Entries) (place : Place) : Violation → Violation → Prop where
  | same (v : Violation) : SameOnPresent members place v v
  | whole (schema : Value) (reason : Reason) (location : Location) :
    SameOnPresent members place ⟨.object members, schema, reason, location, place.value⟩
      ⟨.object members.present, schema, reason, location, place.value⟩

/-- What both sides told so far. -/
abbrev ToldOnPresent (members : Entries) (place : Place) :
    List Violation → List Violation → Prop :=
  List.Forall₂ (SameOnPresent members place)

lemma isKeptBehind_told : IsKeptBehind (ToldOnPresent members place) :=
  fun _ _ h _ => List.rel_append h (List.forall₂_same.2 fun v _ => .same v)

lemma violationsAt_present (reasons : List Reason) : ToldOnPresent members place
    (violationsAt keywords (.object members) place reasons)
    (violationsAt keywords (.object members.present) place reasons) := by
  induction reasons with
  | nil => exact .nil
  | cons reason rest ih => exact .cons (.whole _ reason place.schema) ih

lemma verdictOf_present {vs ws : List Violation} (h : ToldOnPresent members place vs ws)
    (result : Value) :
    Verdict.Rel (SameOnPresent members place) (verdictOf result vs) (verdictOf result ws) := by
  cases h with
  | nil => exact .valid result
  | cons h hrest => exact .invalid (.cons h hrest)

/-! ### The checks of either object -/

lemma children_eq_nil {name : String} (h : keywords.named? name = none) :
    keywords.children name = .ok [] := by
  simp [Entries.children, h]

lemma mergeProperties_present (hk : members.IsKeyed) (children : Entries) {part part' : ObjectPart}
    (h : PartsRel (ToldOnPresent members place) part part') :
    Outcome.Related Eq Eq (PartsRel (ToldOnPresent members place))
      (mergeProperties validate members place children part)
      (mergeProperties validate members.present place children part') := by
  have hvisits : children.map (declaredVisit members.present place) =
      children.map (declaredVisit members place) :=
    List.map_congr_left fun e _ => by simp only [declaredVisit, Entries.get_present hk]
  rw [mergeProperties_eq, mergeProperties_eq, hvisits]
  exact mergeVisits_rel isKeptBehind_told h _

lemma additionalPart_present {part part' : ObjectPart}
    (h : PartsRel (ToldOnPresent members place) part part') :
    Outcome.Related Eq Eq (PartsRel (ToldOnPresent members place))
      (additionalPart validate keywords members place part)
      (additionalPart validate keywords members.present place part') := by
  have hextra : extraMembers members part = extraMembers members.present part' := by
    rw [extraMembers_present]
    simp only [extraMembers, ObjectPart.hasConsumed, h.consumed]
  refine additionalPart_rel isKeptBehind_told h rfl hextra fun reason location => ?_
  exact List.rel_append h.violations (.cons (.whole _ reason location) .nil)

/-- A node without the keywords whose checks see absent members. -/
structure SeesPresent (keywords : Entries) : Prop where
  const : keywords.named? "const" = none
  enum : keywords.named? "enum" = none
  patterns : keywords.named? "patternProperties" = none
  names : keywords.named? "propertyNames" = none
  least : keywords.named? "minProperties" = none
  most : keywords.named? "maxProperties" = none

namespace SeesPresent

variable (h : SeesPresent keywords)

include h

lemma guardReasons_eq (members : Entries) :
    guardReasons keywords .object .json (.object members) = .ok [] := by
  simp only [guardReasons, constReasons, enumReasons, whenGiven, Entries.defined?, Entries.given?,
    h.const, h.enum]
  rfl

/-- Of the checks, those for required, declared and additional members are left. -/
lemma membersPart_eq (members : Entries) (place : Place) :
    membersPart validate keywords members place = do
      let required ← liftM (requiredReasons keywords members)
      let properties ← liftM (keywords.children "properties")
      let part ← mergeProperties validate members place properties
        (.report .empty (violationsAt keywords (.object members) place required))
      let part ← additionalPart validate keywords members place part
      return part.report [] := by
  have hnames (part : ObjectPart) : namesPart validate keywords members place part = pure part := by
    simp [namesPart, Entries.defined?, h.names]
  have hfewer : minCountReasons keywords members = .ok [] := by
    simp [minCountReasons, h.least]
  have hmore : maxCountReasons keywords members = .ok [] := by
    simp [maxCountReasons, whenGiven, Entries.given?, h.most]
  unfold membersPart
  simp only [children_eq_nil h.patterns, hnames, hfewer, hmore]
  rfl

lemma membersPart_present (hk : members.IsKeyed) (place : Place) :
    Outcome.Related Eq Eq (PartsRel (ToldOnPresent members place))
      (membersPart validate keywords members place)
      (membersPart validate keywords members.present place) := by
  have hrequired : requiredReasons keywords members.present = requiredReasons keywords members := by
    simp only [requiredReasons, definedKeys_present]
  rw [h.membersPart_eq, h.membersPart_eq, hrequired]
  refine .bind_eq (.same _) fun required => .bind_eq (.same _) fun properties => ?_
  have hpart : PartsRel (ToldOnPresent members place)
      (.report .empty (violationsAt keywords (.object members) place required))
      (.report .empty (violationsAt keywords (.object members.present) place required)) :=
    ⟨rfl, rfl, violationsAt_present required⟩
  refine .bind (mergeProperties_present hk properties hpart) fun _ _ hpart => ?_
  refine .bind (additionalPart_present hpart) fun _ _ hpart => .pure ?_
  exact hpart.report (isKeptBehind_told hpart.violations [])

end SeesPresent

/-- **An absent member is the same as no member.** A node of objects without literals, patterns, a
schema of names and counts ends alike on an object and on what is present of it: both with the same
fault, or both with the same result, or both with the same violations, of which those of the whole
object carry it as it is on their side. -/
theorem validate_present (ht : keywords.named? "type" = some (.string "object"))
    (hs : SeesPresent keywords) (hk : members.IsKeyed) (place : Place) :
    Outcome.Related Eq Eq (Verdict.Rel (SameOnPresent members place))
      (validate (.object keywords) (.object members) place)
      (validate (.object keywords) (.object members.present) place) := by
  rw [validate_object ht rfl, validate_object ht rfl]
  simp only [validateObject, hs.guardReasons_eq]
  refine .bind_eq (.same _) fun guard => .bind (hs.membersPart_present hk place) fun _ _ h => ?_
  rw [h.members]
  exact .pure (verdictOf_present (List.rel_append (violationsAt_present guard) h.violations) _)

def formKeywords : Entries :=
  [(.string "type", .string "object"), (.string "required", .list [.string "name"]),
    (.string "properties", .object [(.string "name", .object [(.string "type", .string "string")]),
      (.string "tone", .object [(.string "default", .string "plain")])]),
    (.string "additionalProperties", .bool false)]

/-- Absent members under a name that is asked for, under one with a default, and under one that is
not declared. -/
def formMembers : Entries :=
  [(.string "name", .undefined), (.string "note", .string "x"), (.string "tone", .undefined),
    (.string "mark", .undefined)]

theorem validate_present_form :
    Outcome.Related Eq Eq (Verdict.Rel (SameOnPresent formMembers .start))
        (validate (.object formKeywords) (.object formMembers) .start)
        (validate (.object formKeywords) (.object [(.string "note", .string "x")]) .start) ∧
      ((validate (.object formKeywords) (.object formMembers) .start).result.toOption.any
        fun verdict => verdict.violations.length == 2) = true := by
  have hkeyed : formMembers.IsKeyed := ⟨by decide, by decide +kernel⟩
  have hsees : SeesPresent formKeywords := by
    constructor <;> simp [formKeywords]
  exact ⟨validate_present (by simp [formKeywords]) hsees hkeyed .start, by decide +kernel⟩

end Validation

end JsonSchema
