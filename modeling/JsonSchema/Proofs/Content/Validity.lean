import JsonSchema.Proofs.Content.Object
import JsonSchema.Proofs.Keyword

/-!
Validity depends on JSON content only.

Main statement: alike values, put to alike schemas without `multipleOf`, are accepted by both or by
none, and validation ends in a fault for both or for none. The exception is real: a divisor is
applied to integers exactly, but to a number written as a double as doubles are divided.
-/

namespace JsonSchema.Validation

open Value

section

variable {keywords keywords' : Entries} (h : NodesAlike keywords keywords')

include h

/-- Both declare the same type, or a list of types, or none that is known. -/
lemma declaredType_agrees :
    (∃ types types', keywords.declaredType = .union types ∧
        keywords'.declaredType = .union types') ∨
      keywords.declaredType = keywords'.declaredType := by
  unfold Entries.declaredType Entries.named?
  rcases option_rel_iff.1 (h.alike.lookup (.string "type")) with ⟨hv, hw⟩ | ⟨v, w, hv, hw, hvw⟩
  · exact .inr (by rw [hv, hw])
  · rw [hv, hw]
    cases hvw.view with
    | @array _ _ xs ys _ => exact .inl ⟨xs, ys, rfl, rfl⟩
    | _ => exact .inr rfl

lemma absentVerdict_agrees (p q : Place) : Verdict.Agrees (SameOrder keywords keywords')
    (absentVerdict keywords p) (absentVerdict keywords' q) := by
  unfold absentVerdict
  rcases option_rel_iff.1 (h.alike.defined? "default") with ⟨hd, hd'⟩ | ⟨d, d', hd, hd', hdd⟩
  · rw [hd, hd']
    exact .invalid (by simp [violationsAt])
  · rw [hd, hd']
    exact .valid fun _ => hdd

variable {v w : Value} (hv : Alike v w) (p q : Place)

include hv

omit h in
lemma scalarVerdict_agrees {x y : Reasons} (hxy : ReasonsAgree x y) :
    VerdictsAgree (SameOrder keywords keywords') (scalarVerdict keywords v p x)
      (scalarVerdict keywords' w q y) := by
  refine related_bind (x := liftM x) (y := liftM y) hxy fun rs ts hr => ?_
  exact .ok (.verdictOf (by rw [violationsAt_eq_nil, violationsAt_eq_nil, hr]) fun _ _ _ => hv)

lemma validateTyped_agree {type : JsonType} (ht : keywords.declaredType = .one type)
    (ht' : keywords'.declaredType = .one type) :
    VerdictsAgree (SameOrder keywords keywords') (validateTyped validate type keywords v p)
      (validateTyped validate type keywords' w q) := by
  have htype : ∀ expected, typeReasons expected v = typeReasons expected w := fun expected => by
    simp only [typeReasons, mismatch?, hv.kindName_eq]
  cases type with
  | string => exact scalarVerdict_agrees hv p q (reasonsAgree_string h.alike hv _ _)
  | number => exact scalarVerdict_agrees hv p q (reasonsAgree_number h.alike h.multipleOf hv)
  | integer => exact scalarVerdict_agrees hv p q (reasonsAgree_integer h.alike h.multipleOf hv)
  | boolean | null => exact scalarVerdict_agrees hv p q (.ok (by rw [htype]))
  | array => exact validateArray_agree h hv p q
  | object =>
    have hn := Entries.named?_of_declaredType ht
    have hn' := Entries.named?_of_declaredType ht'
    cases hv.view with
    | object hm =>
      have hagree := object_agrees (p := p) (q := q) h hm hn hn'
      rwa [validate_object hn rfl, validate_object hn' rfl] at hagree
    | _ =>
      refine related_bind (reasonsAgree_guard h.alike .object .json hv) fun rs ts hr => ?_
      refine .ok (.verdictOf ?_ fun _ _ _ => alike_object.2 Entries.alike_nil)
      rw [violationsAt_eq_nil, violationsAt_eq_nil, hr]

lemma validateKeywords_agree : VerdictsAgree (SameOrder keywords keywords')
    (validateKeywords validate keywords v p) (validateKeywords validate keywords' w q) := by
  rw [validateKeywords_eq, validateKeywords_eq, hv.isUndefined_eq]
  split
  · exact .ok (absentVerdict_agrees h p q)
  · rcases declaredType_agrees h with ⟨types, types', hd, hd'⟩ | hd
    · rw [hd, hd']
      exact .ok (.invalid Iff.rfl)
    · cases ht : keywords'.declaredType with
      | one type =>
        rw [hd, ht]
        exact validateTyped_agree h hv p q (hd.trans ht) ht
      | union types =>
        rw [hd, ht]
        exact .ok (.invalid Iff.rfl)
      | unknown =>
        rw [hd, ht]
        exact .ok (.valid fun _ => hv)

end

/-- Alike schemas without divisors agree, by induction on their depth. -/
theorem schemasAgree_of_alike {schema schema' : Value} (h : Alike schema schema')
    (hd : schema.everyPart lacksDivisor = true) : SchemasAgree schema schema' := by
  induction hn : schema.depth using Nat.strongRecOn generalizing schema schema' with
  | _ n ih =>
    cases h.view with
    | bool b => exact schemasAgree_bool b
    | @object es fs hes =>
      intro v w hv p q
      rw [validate_keywords, validate_keywords]
      refine validateKeywords_agree ⟨hes, hd, fun {child _} hc hlt hchild => ?_⟩ hv p q
      simp only [depth] at hn
      exact ih child.depth (by omega) hc hchild rfl
    | _ =>
      intro v w hv p q
      simp only [VerdictsAgree, validate_eq]
      exact .error trivial

/-- **Validity depends on JSON content only.** For schemas that are equal as JSON content and have
no `multipleOf` anywhere, and values that are equal as JSON content: validation ends in a fault for
both or for none, and otherwise both are accepted or both are refused. Schemas with their members
in the same order complete the values to equal results. -/
theorem validity_of_content {schema schema' value value' : Value} (hs : schema.isPlain = true)
    (hs' : schema'.isPlain = true) (hschemas : jsonEqual schema schema' = true)
    (hv : value.isPlain = true) (hv' : value'.isPlain = true)
    (hvalues : jsonEqual value value' = true) (hd : schema.everyPart lacksDivisor = true)
    (place place' : Place) :
    (HasAnswer (validate schema value place).result ↔
      HasAnswer (validate schema' value' place').result) ∧
    (∀ a b, (validate schema value place).result = .ok a →
      (validate schema' value' place').result = .ok b → a.isValid = b.isValid) ∧
    (schema.layout = schema'.layout → ∀ r r',
      (validate schema value place).result = .ok (.valid r) →
      (validate schema' value' place').result = .ok (.valid r') → jsonEqual r r' = true) := by
  have hagree := schemasAgree_of_alike ⟨hs, hs', hschemas⟩ hd ⟨hv, hv', hvalues⟩ place place'
  refine ⟨hagree.hasAnswer_iff, fun a b ha hb => ?_, fun ho r r' hr hr' => ?_⟩
  · rw [VerdictsAgree, ha, hb] at hagree
    exact hagree.answers_of_ok.isValid
  · rw [VerdictsAgree, hr, hr'] at hagree
    exact (hagree.answers_of_ok.result ho r r' rfl rfl).equal

/-- A schema of intervals; the number two and the order of members are left open. -/
def intervalSchema (two : Value) (swap : Bool) : Value :=
  let lower := (Value.string "lower", Value.object [(.string "type", .string "integer"),
    (.string "minimum", two)])
  let upper := (Value.string "upper", Value.object [(.string "enum", .list [two, .null]),
    (.string "type", .string "number"), (.string "default", two)])
  .object [(.string "type", .string "object"), (.string "required", .list [.string "lower"]),
    (.string "properties", .object (if swap then [upper, lower] else [lower, upper]))]

def openInterval (two : Value) (swap : Bool) : Value :=
  let lower := (Value.string "lower", two)
  let note := (Value.string "note", Value.null)
  .object (if swap then [note, lower] else [lower, note])

def doubleTwo : Value := .double (.finite false ⟨1024, by decide⟩ ⟨0, by decide⟩)

theorem validity_of_content_interval :
    (∃ a b,
      (validate (intervalSchema (.int 2) false) (openInterval doubleTwo false) .start).result =
        .ok a ∧
      (validate (intervalSchema doubleTwo true) (openInterval (.int 2) true) .start).result =
        .ok b ∧
      a.isValid = b.isValid) ∧
    ∃ r r',
      (validate (intervalSchema (.int 2) false) (openInterval doubleTwo false) .start).result =
        .ok (.valid r) ∧
      (validate (intervalSchema (.int 2) false) (openInterval (.int 2) true) .start).result =
        .ok (.valid r') ∧
      jsonEqual r r' = true := by
  refine ⟨?_, ?_⟩
  · obtain ⟨hanswer, hvalid, -⟩ := @validity_of_content (intervalSchema (.int 2) false)
      (intervalSchema doubleTwo true) (openInterval doubleTwo false) (openInterval (.int 2) true)
      (by decide +kernel) (by decide +kernel) (by decide +kernel) (by decide +kernel)
      (by decide +kernel) (by decide +kernel) (by decide +kernel) .start .start
    obtain ⟨a, ha⟩ := exists_of_isOk (show (validate (intervalSchema (.int 2) false)
      (openInterval doubleTwo false) .start).result.isOk = true by decide +kernel)
    obtain ⟨b, hb⟩ := hanswer.1 ⟨a, ha⟩
    exact ⟨a, b, ha, hb, hvalid a b ha hb⟩
  · obtain ⟨-, -, hresult⟩ := @validity_of_content (intervalSchema (.int 2) false)
      (intervalSchema (.int 2) false) (openInterval doubleTwo false) (openInterval (.int 2) true)
      (by decide +kernel) (by decide +kernel) (by decide +kernel) (by decide +kernel)
      (by decide +kernel) (by decide +kernel) (by decide +kernel) .start .start
    obtain ⟨r, hr⟩ := exists_of_isValid (show (validate (intervalSchema (.int 2) false)
      (openInterval doubleTwo false) .start).result.toOption.any Verdict.isValid = true by
        decide +kernel)
    obtain ⟨r', hr'⟩ := exists_of_isValid (show (validate (intervalSchema (.int 2) false)
      (openInterval (.int 2) true) .start).result.toOption.any Verdict.isValid = true by
        decide +kernel)
    exact ⟨r, r', hr, hr', hresult rfl r r' hr hr'⟩

end JsonSchema.Validation
