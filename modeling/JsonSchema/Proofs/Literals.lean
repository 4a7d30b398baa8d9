import JsonSchema.Proofs.Masking.Verdict
import JsonSchema.Proofs.Object.Reported
import JsonSchema.Proofs.Symmetry

/-!
One literal under `const`, or alone in the list under `enum`.

Main statement: a node asks the same with either. Its verdicts on a value have the same result or
the same findings, but for the one reason that names the keyword.

The two checks stand next to each other, so that their reasons have the same position; they put
the value and the literal to the test of equality in opposite orders. All other checks read the
same keywords in both nodes, and tell the same of them.
-/

namespace JsonSchema

open Validation

/-! ### Lists that differ in one element -/

/-- The same list, or lists that differ in one element, and that is related. -/
inductive OneApart {α : Type} (related : α → α → Prop) : List α → List α → Prop where
  | same (xs : List α) : OneApart related xs xs
  | apart (before after : List α) {a b : α} (h : related a b) :
    OneApart related (before ++ a :: after) (before ++ b :: after)

namespace OneApart

variable {α β : Type} {related : α → α → Prop} {others : β → β → Prop} {xs ys : List α}

lemma append (h : OneApart related xs ys) (zs : List α) :
    OneApart related (xs ++ zs) (ys ++ zs) := by
  cases h with
  | same => exact .same _
  | apart before after h => simpa using apart before (after ++ zs) h

lemma append_left (h : OneApart related xs ys) (zs : List α) :
    OneApart related (zs ++ xs) (zs ++ ys) := by
  cases h with
  | same => exact .same _
  | apart before after h => simpa using apart (zs ++ before) after h

lemma map {f : α → β} (h : OneApart related xs ys)
    (hf : ∀ a b, related a b → others (f a) (f b)) : OneApart others (xs.map f) (ys.map f) := by
  cases h with
  | same => exact .same _
  | apart before after h => simpa using apart (before.map f) (after.map f) (hf _ _ h)

lemma eq_nil_iff (h : OneApart related xs ys) : xs = [] ↔ ys = [] := by
  cases h <;> simp

end OneApart

/-- Two findings that differ in the reason at most. -/
def Finding.SameButReason (f g : Finding) : Prop := g = { f with reason := g.reason }

/-- The same result, or the same findings but for the reason of one. -/
inductive Verdict.OneReasonApart : Verdict → Verdict → Prop where
  | valid (result : Value) : OneReasonApart (.valid result) (.valid result)
  | invalid {vs ws : List Violation} (h : OneApart Finding.SameButReason
      (vs.map Violation.finding) (ws.map Violation.finding)) :
    OneReasonApart (.invalid vs) (.invalid ws)

namespace Validation

/-! ### Two nodes that ask for the same literal -/

/-- Reasons of which one may be put in other words. -/
abbrev ReasonsApart (x y : Reasons) : Prop := Related Eq (OneApart fun _ _ => True) x y

/-- Nodes with the same keywords but `const` and `enum`, under which both ask the same of a
value. -/
structure AskAlike (keywords keywords' : Entries) (value : Value) : Prop where
  others : ∀ name, name ≠ "const" → name ≠ "enum" → keywords.named? name = keywords'.named? name
  guard : ∀ type form,
    ReasonsApart (guardReasons keywords type form value) (guardReasons keywords' type form value)

section

variable {keywords : Entries} {literal : Value} (form : LiteralForm) (value : Value)

lemma constReasons_const (hl : literal.isUndefined = false) :
    constReasons (keywords.insert (.string "const") literal) form value =
      reportIf (!Value.jsonEqual value literal) (.const form literal) := by
  have hd : (keywords.insert (.string "const") literal).defined? "const" = some literal := by
    rw [Entries.defined?, Entries.named?_insert, if_pos rfl, Option.filter_some, hl]
    rfl
  rw [constReasons, hd]

lemma enumReasons_enum :
    enumReasons (keywords.insert (.string "enum") (.list [literal])) form value =
      reportIf (!Value.jsonEqual literal value) (.enum form [literal]) := by
  have hg : (keywords.insert (.string "enum") (.list [literal])).given? "enum" =
      some (.list [literal]) := by
    rw [Entries.given?, Entries.named?_insert, if_pos rfl, Option.filter_some]
    rfl
  rw [enumReasons, whenGiven, hg]
  show reportIf (!Value.jsonContains [literal] value) _ = _
  rw [Value.jsonContains, List.any_cons, List.any_nil, Bool.or_false]

lemma constReasons_of_none (h : keywords.named? "const" = none) :
    constReasons keywords form value = .ok [] := by
  rw [constReasons, Entries.defined?, h]
  rfl

lemma enumReasons_of_none (h : keywords.named? "enum" = none) :
    enumReasons keywords form value = .ok [] := by
  rw [enumReasons, whenGiven, Entries.given?, h]
  rfl

end

/-- One literal may stand under `const` or alone under `enum`. -/
lemma askAlike_literal {keywords : Entries} {literal value : Value}
    (hc : keywords.named? "const" = none) (he : keywords.named? "enum" = none)
    (hl : literal.isUndefined = false)
    (hequal : Value.jsonEqual value literal = Value.jsonEqual literal value) :
    AskAlike (keywords.insert (.string "const") literal)
      (keywords.insert (.string "enum") (.list [literal])) value := by
  refine ⟨fun name hconst henum => ?_, fun type form => ?_⟩
  · rw [Entries.named?_insert_of_ne (Ne.symm hconst), Entries.named?_insert_of_ne (Ne.symm henum)]
  · have henum : (keywords.insert (.string "const") literal).named? "enum" = none := by
      rw [Entries.named?_insert_of_ne (by decide), he]
    have hconst : (keywords.insert (.string "enum") (.list [literal])).named? "const" = none := by
      rw [Entries.named?_insert_of_ne (by decide), hc]
    rw [guardReasons, guardReasons, constReasons_const form value hl,
      enumReasons_of_none form value henum, constReasons_of_none form value hconst,
      enumReasons_enum, hequal]
    cases Value.jsonEqual literal value with
    | true => exact .ok (.same _)
    | false =>
      have hcan : (Reason.enum form [literal]).canShow = (Reason.const form literal).canShow :=
        Bool.and_true _
      simp only [reportIf, hcan, Bool.not_false, if_true]
      cases (Reason.const form literal).canShow with
      | false => exact .error rfl
      | true =>
        have hapart : OneApart (fun _ _ => True)
            (typeReasons type value ++ [Reason.const form literal])
            (typeReasons type value ++ [Reason.enum form [literal]]) := .apart _ [] trivial
        exact .ok (by simpa using hapart)

/-! ### Findings of two nodes -/

/-- The same findings, whatever schemas tell them. -/
abbrev SameFindings (vs ws : List Violation) : Prop :=
  vs.map Violation.finding = ws.map Violation.finding

/-- Findings of which one may have another reason. -/
abbrev FindingsApart (vs ws : List Violation) : Prop :=
  OneApart Finding.SameButReason (vs.map Violation.finding) (ws.map Violation.finding)

lemma isKeptBehind_sameFindings : IsKeptBehind SameFindings := by
  intro vs ws h us
  simp only [SameFindings, List.map_append, h]

lemma FindingsApart.append {vs ws us ts : List Violation} (h : FindingsApart vs ws)
    (h' : SameFindings us ts) : FindingsApart (vs ++ us) (ws ++ ts) := by
  simp only [FindingsApart, List.map_append, ← h']
  exact OneApart.append h _

section

variable {keywords keywords' : Entries} {value : Value} {place : Place}

lemma sameFindings_violationsAt (reasons : List Reason) :
    SameFindings (violationsAt keywords value place reasons)
      (violationsAt keywords' value place reasons) := by
  rw [SameFindings, findings_violationsAt, findings_violationsAt]

lemma findingsApart_violationsAt {reasons reasons' : List Reason}
    (h : OneApart (fun _ _ => True) reasons reasons') :
    FindingsApart (violationsAt keywords value place reasons)
      (violationsAt keywords' value place reasons') := by
  rw [FindingsApart, findings_violationsAt, findings_violationsAt]
  exact h.map fun _ _ _ => rfl

lemma oneReasonApart_verdictOf {vs ws : List Violation} (h : FindingsApart vs ws)
    (result : Value) : (verdictOf result vs).OneReasonApart (verdictOf result ws) := by
  have hnil : vs = [] ↔ ws = [] := by
    simpa only [List.map_eq_nil_iff] using h.eq_nil_iff
  cases vs with
  | nil =>
    rw [hnil.1 rfl]
    exact .valid result
  | cons v vs =>
    cases ws with
    | nil => cases hnil.2 rfl
    | cons w ws => exact .invalid h

lemma scalarVerdict_apart {x y : Reasons} (h : ReasonsApart x y) (place : Place) :
    Outcome.Related Eq Eq Verdict.OneReasonApart (scalarVerdict keywords value place x)
      (scalarVerdict keywords' value place y) :=
  .bind (.liftM h) fun _ _ hr => .pure (oneReasonApart_verdictOf (findingsApart_violationsAt hr) _)

/-! ### The checks of two nodes -/

variable (ha : AskAlike keywords keywords' value)

include ha

namespace AskAlike

lemma given?_eq (name : String) (hc : name ≠ "const") (he : name ≠ "enum") :
    keywords.given? name = keywords'.given? name := by
  rw [Entries.given?, Entries.given?, ha.others name hc he]

lemma defined?_eq (name : String) (hc : name ≠ "const") (he : name ≠ "enum") :
    keywords.defined? name = keywords'.defined? name := by
  rw [Entries.defined?, Entries.defined?, ha.others name hc he]

lemma children_eq (name : String) (hc : name ≠ "const") (he : name ≠ "enum") :
    keywords.children name = keywords'.children name := by
  rw [Entries.children, Entries.children, ha.others name hc he]

lemma textReasons_eq (text : Text) (location : Location) :
    textReasons keywords text location = textReasons keywords' text location := by
  simp only [textReasons, minLengthReasons, maxLengthReasons, patternReasons, whenGiven,
    ha.given?_eq "minLength" (by decide) (by decide),
    ha.given?_eq "maxLength" (by decide) (by decide),
    ha.given?_eq "pattern" (by decide) (by decide)]

lemma magnitudeReasons_eq (x : Number) :
    magnitudeReasons keywords x = magnitudeReasons keywords' x := by
  have hbound (bound : Bound) : boundReasons keywords x bound = boundReasons keywords' x bound := by
    simp only [boundReasons, whenGiven, ha.given?_eq bound.keyword
      (by cases bound <;> decide) (by cases bound <;> decide)]
  simp only [magnitudeReasons, hbound, multipleReasons, whenGiven,
    ha.given?_eq "multipleOf" (by decide) (by decide)]

lemma stringReasons (location : Location) :
    ReasonsApart (stringReasons keywords value location)
      (stringReasons keywords' value location) := by
  refine .bind (ha.guard .string .quoted) fun guard guard' hguard => ?_
  cases value with
  | string text =>
    simp only [ha.textReasons_eq]
    refine .bind (.refl (fun _ => rfl) (fun _ => rfl) _) ?_
    rintro reasons _ rfl
    exact .pure (hguard.append reasons)
  | _ => exact .pure hguard

lemma numberReasons : ReasonsApart (numberReasons keywords value)
    (numberReasons keywords' value) := by
  refine .bind (ha.guard .number .plain) fun guard guard' hguard => ?_
  cases value with
  | number x =>
    simp only [ha.magnitudeReasons_eq]
    refine .bind (.refl (fun _ => rfl) (fun _ => rfl) _) ?_
    rintro reasons _ rfl
    exact .pure (hguard.append reasons)
  | _ => exact .pure hguard

lemma integerReasons : ReasonsApart (integerReasons keywords value)
    (integerReasons keywords' value) := by
  refine .bind ha.numberReasons fun reasons reasons' hreasons => ?_
  cases value with
  | number x =>
    refine .pure ?_
    split
    · exact hreasons
    · exact hreasons.append_left [.notInteger]
  | _ => exact .pure hreasons

/-- Elements are put to the same schemas; that an array is too short is told of either node. -/
lemma elementsPart (items : List Value) (place : Place) :
    Outcome.Related Eq Eq (fun a b => a.1 = b.1 ∧ SameFindings a.2 b.2)
      (elementsPart validate keywords items value place)
      (elementsPart validate keywords' items value place) := by
  unfold Validation.elementsPart
  rw [ha.defined?_eq "items" (by decide) (by decide)]
  split
  · exact .pure ⟨rfl, rfl⟩
  · split
    · exact .pure ⟨rfl, sameFindings_violationsAt _⟩
    · exact .bind_eq (.same _) fun verdicts => .pure ⟨rfl, rfl⟩
  · exact .bind_eq (.same _) fun verdicts => .pure ⟨rfl, rfl⟩

lemma validateArray (place : Place) :
    Outcome.Related Eq Eq Verdict.OneReasonApart (validateArray validate keywords value place)
      (validateArray validate keywords' value place) := by
  refine .bind (.liftM (ha.guard .array .json)) fun guard guard' hguard => ?_
  have hguard : FindingsApart (violationsAt keywords value place guard)
      (violationsAt keywords' value place guard') := findingsApart_violationsAt hguard
  cases value with
  | array kind items =>
    refine .bind (ha.elementsPart items place) ?_
    rintro ⟨results, vs⟩ ⟨_, ws⟩ ⟨rfl, h⟩
    exact .pure (oneReasonApart_verdictOf (hguard.append h) results)
  | _ => exact .pure (oneReasonApart_verdictOf hguard _)

end AskAlike

end

/-- Members are put to the same schemas; what is told of the object is told of either node. -/
lemma membersPart_askAlike {keywords keywords' members : Entries} {place : Place}
    (ha : AskAlike keywords keywords' (.object members)) :
    Outcome.Related Eq Eq (PartsRel SameFindings) (membersPart validate keywords members place)
      (membersPart validate keywords' members place) := by
  have habout (reasons : List Reason) := @sameFindings_violationsAt keywords keywords'
    (.object members) place reasons
  have hrequired : requiredReasons keywords members = requiredReasons keywords' members := by
    simp only [requiredReasons, ha.others "required" (by decide) (by decide)]
  have hfewer : minCountReasons keywords members = minCountReasons keywords' members := by
    simp only [minCountReasons, ha.others "minProperties" (by decide) (by decide)]
  have hmore : maxCountReasons keywords members = maxCountReasons keywords' members := by
    simp only [maxCountReasons, whenGiven,
      ha.given?_eq "maxProperties" (by decide) (by decide)]
  unfold membersPart
  rw [hrequired, hfewer, hmore, ha.children_eq "properties" (by decide) (by decide),
    ha.children_eq "patternProperties" (by decide) (by decide)]
  refine .bind_eq (.same _) fun required => .bind_eq (.same _) fun properties => ?_
  have hpart : PartsRel SameFindings
      (.report .empty (violationsAt keywords (.object members) place required))
      (.report .empty (violationsAt keywords' (.object members) place required)) :=
    ⟨rfl, rfl, habout required⟩
  rw [mergeProperties_eq, mergeProperties_eq]
  refine .bind (mergeVisits_rel isKeptBehind_sameFindings hpart _) fun _ _ hpart => ?_
  refine .bind_eq (.same _) fun patterns => ?_
  refine .bind (mergePatterns_rel isKeptBehind_sameFindings hpart _ _ _) fun part part' hpart => ?_
  have hextra : extraMembers members part = extraMembers members part' := by
    simp only [extraMembers, ObjectPart.hasConsumed, hpart.consumed]
  refine .bind (additionalPart_rel isKeptBehind_sameFindings hpart
    (ha.defined?_eq "additionalProperties" (by decide) (by decide)) hextra
    fun _ _ => isKeptBehind_sameFindings hpart.violations _) fun _ _ hpart => ?_
  refine .bind (namesPart_rel isKeptBehind_sameFindings hpart
    (ha.defined?_eq "propertyNames" (by decide) (by decide)) _ _) fun _ _ hpart => ?_
  refine .bind_eq (.same _) fun fewer => .bind_eq (.same _) fun more => .pure (hpart.report ?_)
  simp only [SameFindings, List.map_append, hpart.violations, habout fewer, habout more]

lemma validateObject_askAlike {keywords keywords' : Entries} {value : Value}
    (ha : AskAlike keywords keywords' value) (place : Place) :
    Outcome.Related Eq Eq Verdict.OneReasonApart (validateObject validate keywords value place)
      (validateObject validate keywords' value place) := by
  refine .bind (.liftM (ha.guard .object .json)) fun guard guard' hguard => ?_
  have hguard : FindingsApart (violationsAt keywords value place guard)
      (violationsAt keywords' value place guard') := findingsApart_violationsAt hguard
  cases value with
  | object members =>
    refine .bind (membersPart_askAlike ha) fun part part' hpart => .pure ?_
    rw [hpart.members]
    exact oneReasonApart_verdictOf (hguard.append hpart.violations) _
  | _ => exact .pure (oneReasonApart_verdictOf hguard _)

/-- Two nodes that ask alike have verdicts that differ in one reason at most. -/
lemma validate_askAlike {keywords keywords' : Entries} {value : Value}
    (ha : AskAlike keywords keywords' value) (place : Place) :
    Outcome.Related Eq Eq Verdict.OneReasonApart (validate (.object keywords) value place)
      (validate (.object keywords') value place) := by
  have hsame (reasons : List Reason) : ReasonsApart (.ok reasons) (.ok reasons) :=
    .ok (.same reasons)
  have htype : keywords.declaredType = keywords'.declaredType := by
    rw [Entries.declaredType, Entries.declaredType, ha.others "type" (by decide) (by decide)]
  have habsent : (absentVerdict keywords place).OneReasonApart (absentVerdict keywords' place) := by
    unfold absentVerdict
    rw [ha.defined?_eq "default" (by decide) (by decide)]
    split
    · exact .valid _
    · exact .invalid (.same _)
  rw [validate_keywords, validate_keywords, validateKeywords_eq, validateKeywords_eq, htype]
  split
  · exact .pure habsent
  · split
    · exact .bind_eq (.same _) fun _ => .pure (.invalid (.same []))
    · rename_i type _
      cases type with
      | string => exact scalarVerdict_apart (ha.stringReasons place.schema) place
      | number => exact scalarVerdict_apart ha.numberReasons place
      | integer => exact scalarVerdict_apart ha.integerReasons place
      | boolean | null => exact scalarVerdict_apart (hsame _) place
      | array => exact ha.validateArray place
      | object => exact validateObject_askAlike ha place
    · exact .pure (.valid value)

/-- **One literal is the same constraint under `const` and alone under `enum`.** A node with neither
keyword ends alike with the one and with the other, on every value and at every place: with the same
fault, with the same result, or with as many findings, of which one may have another reason. -/
theorem validate_const_enum {keywords : Entries} (hc : keywords.named? "const" = none)
    (he : keywords.named? "enum" = none) {literal value : Value}
    (hl : literal.isUndefined = false) (hlk : literal.everyPart Value.isWellKeyed = true)
    (hvk : value.everyPart Value.isWellKeyed = true) (place : Place) :
    Outcome.Related Eq Eq Verdict.OneReasonApart
      (validate (.object (keywords.insert (.string "const") literal)) value place)
      (validate (.object (keywords.insert (.string "enum") (.list [literal]))) value place) := by
  have hequal : Value.jsonEqual value literal = Value.jsonEqual literal value := by
    rw [Bool.eq_iff_iff]
    exact ⟨Value.jsonEqual_symm hvk hlk, Value.jsonEqual_symm hlk hvk⟩
  exact validate_askAlike (askAlike_literal hc he hl hequal) place

def stampKeywords : Entries :=
  [(.string "type", .string "object"), (.string "required", .list [.string "size"])]

def stamp : Value := .object [(.string "size", .int 2), (.string "ink", .list [.bool true, .null])]

/-- An object without the member, which is told behind the literal. -/
theorem validate_const_enum_stamp :
    Outcome.Related Eq Eq Verdict.OneReasonApart
        (validate (.object (stampKeywords.insert (.string "const") stamp))
          (.object [(.string "ink", .null)]) .start)
        (validate (.object (stampKeywords.insert (.string "enum") (.list [stamp])))
          (.object [(.string "ink", .null)]) .start) ∧
      ((validate (.object (stampKeywords.insert (.string "const") stamp))
        (.object [(.string "ink", .null)]) .start).result.toOption.any
        fun verdict => verdict.findings.length == 2) = true :=
  ⟨validate_const_enum (by simp [stampKeywords]) (by simp [stampKeywords]) rfl (by decide +kernel)
    (by decide +kernel) .start, by decide +kernel⟩

end Validation

end JsonSchema
