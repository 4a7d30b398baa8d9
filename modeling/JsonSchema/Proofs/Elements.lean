import JsonSchema.Proofs.Stability

/-!
The verdict on an array, element by element.

An array is accepted when the list of violations that its elements left is empty, not when every
element is accepted. Main statement: the two differ in one case alone, that of elements put to a
node with a list of types, which refuses them without a violation. In the result null stands for
such an element, as it does for an absent one.
-/

namespace JsonSchema.Validation

open Outcome

/-- What an element of an accepted array becomes: what its schema makes of it, or null if that is
absent; and null where a node with a list of types refuses it without a violation. -/
inductive ElementGives (schema element : Value) : Value → Prop where
  | accepted {result : Value}
    (h : (validate schema element .start).result = .ok (.valid result)) :
    ElementGives schema element (if result.isUndefined then .null else result)
  | untold (union : schema.isUnion = true) (defined : element.isUndefined = false) :
    ElementGives schema element .null

/-- Without violations a verdict makes something of an element. -/
lemma elementGives_of_verdict {schema element : Value} {place : Place} {verdict : Verdict}
    (h : (validate schema element place).result = .ok verdict) (hn : verdict.violations = []) :
    ElementGives schema element (elementResult verdict) := by
  cases verdict with
  | valid result => exact .accepted (valid_at_place h .start)
  | invalid violations =>
    obtain rfl : violations = [] := hn
    exact .untold (isUnion_of_invalid_nil h) (isUndefined_of_invalid_nil h)

/-- An element of which something is made has a verdict without violations, at every place. -/
lemma violations_of_elementGives {schema element result : Value} {place : Place} {verdict : Verdict}
    (hg : ElementGives schema element result)
    (h : (validate schema element place).result = .ok verdict) : verdict.violations = [] := by
  cases hg with
  | accepted hvalid =>
    cases (valid_at_place hvalid place).symm.trans h
    rfl
  | untold union defined =>
    cases (validate_of_isUnion union defined place).symm.trans h
    rfl

/-! ### Elements with their schemas -/

/-- The verdicts on elements, each put to its schema somewhere. -/
def VerdictsOn (pairs : List (Value × Value)) (verdicts : List Verdict) : Prop :=
  List.Forall₂ (fun p verdict => ∃ place, (validate p.1 p.2 place).result = .ok verdict)
    pairs verdicts

lemma verdictsOn_list {schema : Value} {place : Place} {index : Nat} {items : List Value}
    {verdicts : List Verdict}
    (h : (listVerdicts validate schema place index items).result = .ok verdicts) :
    VerdictsOn (items.map fun item => (schema, item)) verdicts := by
  induction items generalizing index verdicts with
  | nil =>
    cases h
    exact .nil
  | cons item rest ih =>
    obtain ⟨verdict, hv, h⟩ := result_bind_eq_ok.1 h
    obtain ⟨later, hl, h⟩ := result_bind_eq_ok.1 h
    cases h
    exact .cons ⟨_, hv⟩ (ih hl)

lemma verdictsOn_tuple {place : Place} {index : Nat} {schemas items : List Value}
    {verdicts : List Verdict}
    (h : (tupleVerdicts validate place index schemas items).result = .ok verdicts) :
    VerdictsOn (schemas.zip items) verdicts := by
  induction schemas generalizing index items verdicts with
  | nil =>
    cases items <;> cases h <;> exact .nil
  | cons schema schemas ih =>
    cases items with
    | nil =>
      cases h
      exact .nil
    | cons item rest =>
      obtain ⟨verdict, hv, h⟩ := result_bind_eq_ok.1 h
      obtain ⟨later, hl, h⟩ := result_bind_eq_ok.1 h
      cases h
      exact .cons ⟨_, hv⟩ (ih hl)

namespace VerdictsOn

variable {pairs : List (Value × Value)} {verdicts : List Verdict} (h : VerdictsOn pairs verdicts)

include h

/-- No violation is left exactly if something is made of every element. -/
lemma violations_eq_nil_iff : (ElementsPart.ofVerdicts verdicts).violations = [] ↔
    ∀ p ∈ pairs, ∃ result, ElementGives p.1 p.2 result := by
  show verdicts.flatMap Verdict.violations = [] ↔ _
  induction h with
  | nil => simp
  | @cons p verdict pairs verdicts hp _ ih =>
    obtain ⟨place, hv⟩ := hp
    rw [List.flatMap_cons, List.append_eq_nil_iff, ih, List.forall_mem_cons]
    refine and_congr_left fun _ => ⟨fun hn => ⟨_, elementGives_of_verdict hv hn⟩, ?_⟩
    rintro ⟨result, hg⟩
    exact violations_of_elementGives hg hv

/-- Where no violation is left, the results are what is made of the elements. -/
lemma results (hn : (ElementsPart.ofVerdicts verdicts).violations = []) :
    List.Forall₂ (fun p result => ElementGives p.1 p.2 result) pairs
      (ElementsPart.ofVerdicts verdicts).results := by
  show List.Forall₂ _ _ (verdicts.map elementResult)
  replace hn : verdicts.flatMap Verdict.violations = [] := hn
  induction h with
  | nil => exact .nil
  | @cons p verdict pairs verdicts hp _ ih =>
    obtain ⟨place, hv⟩ := hp
    rw [List.flatMap_cons, List.append_eq_nil_iff] at hn
    exact .cons (elementGives_of_verdict hv hn.1) (ih hn.2)

end VerdictsOn

/-! ### The array -/

section

variable {keywords : Entries} {kind : ArrayKind} {items : List Value} {place : Place}
  {verdict : Verdict}

/-- Without literals the verdict on an array is that on its elements. -/
lemma exists_elementsPart_of_lacks (ht : keywords.declaredType = .one .array)
    (hl : keywords.Lacks ["const", "enum"])
    (h : (validate (.object keywords) (.array kind items) place).result = .ok verdict) :
    ∃ part, (elementsPart validate keywords items (.array kind items) place).result = .ok part ∧
      verdict = verdictOf part.1 part.2 := by
  rw [validate_array ht rfl, validateArray,
    guardReasons_eq_nil hl (show (Value.array kind items).kindName = _ from rfl) .json] at h
  obtain ⟨guard, hg, h⟩ := result_bind_eq_ok.1 h
  cases hg
  obtain ⟨part, hp, h⟩ := result_bind_eq_ok.1 h
  cases h
  exact ⟨part, hp, rfl⟩

/-- The verdict that the verdicts on the elements make up. -/
lemma VerdictsOn.verdictOf {pairs : List (Value × Value)} {verdicts : List Verdict}
    (hv : VerdictsOn pairs verdicts) :
    let part := ElementsPart.ofVerdicts verdicts
    let verdict := Validation.verdictOf (.list part.results) part.violations
    (verdict.isValid = true ↔ ∀ p ∈ pairs, ∃ result, ElementGives p.1 p.2 result) ∧
      ∀ result, verdict = .valid result → ∃ results, result = .list results ∧
        List.Forall₂ (fun p r => ElementGives p.1 p.2 r) pairs results := by
  refine ⟨?_, fun result hvalid => ?_⟩
  · rw [isValid_verdictOf, List.isEmpty_iff, hv.violations_eq_nil_iff]
  · obtain ⟨hn, rfl⟩ := verdictOf_eq_valid.1 hvalid
    exact ⟨_, rfl, hv.results hn⟩

/-- **Arrays are accepted element by element.** With one schema for all, an array is accepted if and
only if every element is accepted, or refused without a violation; in a tuple if and only if there
is an element at every position and each of these is, whatever the elements behind them are. The
result lists what the elements become, in their order and no others. -/
theorem accepted_by_elements (ht : keywords.declaredType = .one .array)
    (hl : keywords.Lacks ["const", "enum"])
    (h : (validate (.object keywords) (.array kind items) place).result = .ok verdict) :
    (∀ schema, keywords.defined? "items" = some schema → schema.isArray = false →
      (verdict.isValid = true ↔ ∀ item ∈ items, ∃ result, ElementGives schema item result) ∧
      ∀ result, verdict = .valid result → ∃ results, result = .list results ∧
        List.Forall₂ (ElementGives schema) items results) ∧
    ∀ kind' schemas, keywords.defined? "items" = some (.array kind' schemas) →
      (verdict.isValid = true ↔ schemas.length ≤ items.length ∧
        ∀ p ∈ schemas.zip items, ∃ result, ElementGives p.1 p.2 result) ∧
      ∀ result, verdict = .valid result → ∃ results, result = .list results ∧
        results.length = schemas.length ∧
        List.Forall₂ (fun p r => ElementGives p.1 p.2 r) (schemas.zip items) results := by
  obtain ⟨part, hpart, rfl⟩ := exists_elementsPart_of_lacks ht hl h
  constructor
  · intro schema hs ha
    rw [elementsPart_of_one hs ha] at hpart
    obtain ⟨verdicts, hv, hpart⟩ := result_bind_eq_ok.1 hpart
    cases hpart
    obtain ⟨hiff, hresult⟩ := (verdictsOn_list hv).verdictOf
    refine ⟨by simpa using hiff, fun result hvalid => ?_⟩
    obtain ⟨results, rfl, hall⟩ := hresult result hvalid
    exact ⟨results, rfl, by simpa using hall⟩
  · intro kind' schemas hs
    rw [elementsPart_of_tuple hs] at hpart
    split at hpart
    · -- an array shorter than its tuple has a violation of its own
      rename_i hshort
      cases hpart
      refine ⟨iff_of_false (by simp [violationsAt]) fun hall => ?_, fun result hvalid => ?_⟩
      · exact Nat.not_lt.2 hall.1 hshort
      · simp [violationsAt, verdictOf] at hvalid
    · rename_i hlong
      obtain ⟨verdicts, hv, hpart⟩ := result_bind_eq_ok.1 hpart
      cases hpart
      obtain ⟨hiff, hresult⟩ := (verdictsOn_tuple hv).verdictOf
      refine ⟨hiff.trans (and_iff_right (Nat.not_lt.1 hlong)).symm, fun result hvalid => ?_⟩
      obtain ⟨results, rfl, hall⟩ := hresult result hvalid
      refine ⟨results, rfl, ?_, hall⟩
      rw [← hall.length_eq, List.length_zip]
      exact Nat.min_eq_left (Nat.not_lt.1 hlong)

end

def mixedTuple : List Value :=
  [.bool true, .object [(.string "type", .list [.string "string", .string "null"])],
    .object [(.string "type", .string "object"),
      (.string "properties", .object [(.string "n", .object [(.string "default", .int 0)])])]]

def mixedKeywords : Entries :=
  [(.string "type", .string "array"), (.string "items", .list mixedTuple)]

/-- An absent element, one for each other position, and one more. -/
def mixedItems : List Value := [.undefined, .int 7, .object [], .string "rest"]

theorem accepted_by_elements_mixed :
    mixedKeywords.declaredType = .one .array ∧ mixedKeywords.Lacks ["const", "enum"] ∧
      ∃ results, (validate (.object mixedKeywords) (.list mixedItems) .start).result =
          .ok (.valid (.list results)) ∧ results.length = 3 ∧
        List.Forall₂ (fun p r => ElementGives p.1 p.2 r) (mixedTuple.zip mixedItems) results := by
  have ht : mixedKeywords.declaredType = .one .array :=
    Entries.declaredType_of_named? (by simp [mixedKeywords, JsonType.name])
  have hl : mixedKeywords.Lacks ["const", "enum"] := by simp [Entries.Lacks, mixedKeywords]
  obtain ⟨result, h⟩ := exists_of_isValid
    (show (validate (.object mixedKeywords) (.list mixedItems) .start).result.toOption.any
      Verdict.isValid = true by decide +kernel)
  obtain ⟨results, rfl, hlength, hall⟩ := ((accepted_by_elements ht hl h).2 .list mixedTuple
    (by simp [mixedKeywords, Entries.defined?, Value.isUndefined, Value.list])).2 result rfl
  exact ⟨ht, hl, results, h, hlength, hall⟩

def looseItemKeywords : Entries :=
  [(.string "type", .string "array"),
    (.string "items", .object [(.string "type", .list [.string "string"])])]

/-- An array may be accepted although none of its elements is. -/
theorem accepted_with_refused_element :
    (∃ result, (validate (.object looseItemKeywords) (.list [.int 1]) .start).result =
      .ok (.valid result)) ∧
    ∀ result, (validate (.object [(.string "type", .list [.string "string"])]) (.int 1)
      .start).result ≠ .ok (.valid result) := by
  refine ⟨exists_of_isValid (by decide +kernel), fun result h => ?_⟩
  cases (validate_of_isUnion (by decide +kernel) rfl .start).symm.trans h

end JsonSchema.Validation
