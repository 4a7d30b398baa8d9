import JsonSchema.Proofs.Keys

/-!
Validation does not depend on the depth to which nodes are nested.

A node validates against schemas below it only, and those are less deep. So `validate` is the
fixed point of `validateNode`, and proofs never count levels.
-/

namespace JsonSchema

/-! ### Schemas below a node -/

lemma Entries.depth_of_get? {entries : Entries} {key v : Value} (h : entries.get? key = some v) :
    v.depth ≤ Value.depthOfEntries entries := by
  obtain ⟨k, hk, -⟩ := mem_of_get? h
  exact Value.depth_le_depthOfEntries hk

lemma Entries.depth_of_children {keywords children : Entries} {name : String} {k child : Value}
    (h : keywords.children name = .ok children) (hc : (k, child) ∈ children) :
    child.depth < Value.depthOfEntries keywords := by
  rcases named?_of_children h with hn | rfl
  · have h1 := depth_of_get? hn
    have h2 := Value.depth_le_depthOfEntries hc
    simp only [Value.depth] at h1
    omega
  · simp at hc

/-! ### Validators that agree on the schemas below -/

namespace Validation

variable {f g : Validator}

lemma listVerdicts_congr {schema : Value} (h : f schema = g schema) (place : Place)
    (index : Nat) (items : List Value) :
    listVerdicts f schema place index items = listVerdicts g schema place index items := by
  induction items generalizing index with
  | nil => rfl
  | cons item rest ih => simp only [listVerdicts, h, ih]

lemma tupleVerdicts_congr {schemas : List Value} (h : ∀ s ∈ schemas, f s = g s) (place : Place)
    (index : Nat) (items : List Value) :
    tupleVerdicts f place index schemas items = tupleVerdicts g place index schemas items := by
  induction schemas generalizing index items with
  | nil => cases items <;> rfl
  | cons s rest ih =>
    cases items with
    | nil => rfl
    | cons item items =>
      simp only [tupleVerdicts, h s (by simp), ih (fun t ht => h t (by simp [ht]))]

lemma mergeProperties_congr {children : Entries} (h : ∀ e ∈ children, f e.2 = g e.2)
    (members : Entries) (place : Place) (part : ObjectPart) :
    mergeProperties f members place children part =
      mergeProperties g members place children part := by
  induction children generalizing part with
  | nil => rfl
  | cons e rest ih =>
    simp only [mergeProperties, h e (by simp), ih (fun e he => h e (by simp [he]))]

lemma mergeMatching_congr {child : Value} (h : f child = g child) (pattern : Value)
    (place : Place) (members : Entries) (part : ObjectPart) :
    mergeMatching f pattern child place members part =
      mergeMatching g pattern child place members part := by
  induction members generalizing part with
  | nil => rfl
  | cons e rest ih => simp only [mergeMatching, h, ih]

lemma mergePatterns_congr {children : Entries} (h : ∀ e ∈ children, f e.2 = g e.2)
    (members : Entries) (place : Place) (part : ObjectPart) :
    mergePatterns f members place children part =
      mergePatterns g members place children part := by
  induction children generalizing part with
  | nil => rfl
  | cons e rest ih =>
    simp only [mergePatterns, mergeMatching_congr (h e (by simp)),
      ih (fun e he => h e (by simp [he]))]

lemma mergeAdditional_congr {schema : Value} (h : f schema = g schema) (place : Place)
    (extra : Entries) (part : ObjectPart) :
    mergeAdditional f schema place extra part = mergeAdditional g schema place extra part := by
  induction extra generalizing part with
  | nil => rfl
  | cons e rest ih => simp only [mergeAdditional, h, ih]

lemma nameViolations_congr {schema : Value} (h : f schema = g schema) (place : Place)
    (members : Entries) :
    nameViolations f schema place members = nameViolations g schema place members := by
  induction members with
  | nil => rfl
  | cons e rest ih =>
    have hv : nameVerdict f schema e.1 place = nameVerdict g schema e.1 place := by
      cases schema <;> simp only [nameVerdict, h]
    simp only [nameViolations, hv, ih]

/-- Two validators agree on the schemas that stand below a node with some keywords. -/
def AgreeBelow (f g : Validator) (keywords : Entries) : Prop :=
  ∀ child : Value, child.depth ≤ Value.depthOfEntries keywords → f child = g child

lemma validateArray_congr {keywords : Entries} (h : AgreeBelow f g keywords) (value : Value)
    (place : Place) :
    validateArray f keywords value place = validateArray g keywords value place := by
  have hp : ∀ items, elementsPart f keywords items value place =
      elementsPart g keywords items value place := by
    intro items
    unfold elementsPart
    split
    · rfl
    · rename_i hd
      have hs := Entries.depth_of_get? (Entries.named?_of_defined? hd)
      simp only [Value.depth] at hs
      rw [tupleVerdicts_congr fun s hm => h s (by have := Value.depth_le_depthOfItems hm; omega)]
    · rename_i hd
      rw [listVerdicts_congr (h _ (Entries.depth_of_get? (Entries.named?_of_defined? hd)))]
  unfold validateArray
  simp only [hp]

lemma additionalPart_congr {keywords : Entries} (h : AgreeBelow f g keywords) (members : Entries)
    (place : Place) (part : ObjectPart) :
    additionalPart f keywords members place part =
      additionalPart g keywords members place part := by
  simp only [additionalPart]
  split
  · rfl
  · split <;> try rfl
    rename_i hd
    rw [mergeAdditional_congr (h _ (Entries.depth_of_get? (Entries.named?_of_defined? hd)))]

lemma namesPart_congr {keywords : Entries} (h : AgreeBelow f g keywords) (members : Entries)
    (place : Place) (part : ObjectPart) :
    namesPart f keywords members place part = namesPart g keywords members place part := by
  unfold namesPart
  split
  · rfl
  · rename_i hd
    rw [nameViolations_congr (h _ (Entries.depth_of_get? (Entries.named?_of_defined? hd)))]

lemma membersPart_congr {keywords : Entries} (h : AgreeBelow f g keywords) (members : Entries)
    (place : Place) :
    membersPart f keywords members place = membersPart g keywords members place := by
  have hc : ∀ {name children}, keywords.children name = .ok children →
      ∀ e ∈ children, f e.2 = g e.2 :=
    fun hk e he => h _ (Nat.le_of_lt (Entries.depth_of_children hk he))
  unfold membersPart
  refine Outcome.bind_congr_of_ok fun required _ => ?_
  refine Outcome.bind_congr_of_ok fun properties hp => ?_
  rw [mergeProperties_congr (hc (by simpa using hp))]
  refine Outcome.bind_congr_of_ok fun part _ => ?_
  refine Outcome.bind_congr_of_ok fun patterns hq => ?_
  rw [mergePatterns_congr (hc (by simpa using hq))]
  simp only [additionalPart_congr h, namesPart_congr h]

lemma validateObject_congr {keywords : Entries} (h : AgreeBelow f g keywords) (value : Value)
    (place : Place) :
    validateObject f keywords value place = validateObject g keywords value place := by
  unfold validateObject
  simp only [membersPart_congr h]

lemma validateKeywords_congr {keywords : Entries} (h : AgreeBelow f g keywords) :
    validateKeywords f keywords = validateKeywords g keywords := by
  have ht : ∀ type, validateTyped f type keywords = validateTyped g type keywords := by
    intro type
    funext value place
    cases type <;> simp only [validateTyped, validateArray_congr h, validateObject_congr h]
  unfold validateKeywords
  simp only [ht]

lemma validateNode_congr {schema : Value}
    (h : ∀ child : Value, child.depth < schema.depth → f child = g child) :
    validateNode f schema = validateNode g schema := by
  cases schema with
  | object keywords =>
    refine validateKeywords_congr fun child hc => h child ?_
    simp only [Value.depth]
    omega
  | bool b => cases b <;> rfl
  | _ => rfl

/-! ### The fixed point -/

lemma validateUpTo_succ {depth : Nat} {schema : Value} (h : schema.depth ≤ depth) :
    validateUpTo (depth + 1) schema = validateUpTo depth schema := by
  induction depth generalizing schema with
  | zero => exact validateNode_congr fun child hc => by omega
  | succ depth ih => exact validateNode_congr fun child hc => ih (by omega)

lemma validateUpTo_eq {depth : Nat} {schema : Value} (h : schema.depth ≤ depth) :
    validateUpTo depth schema = validate schema := by
  obtain ⟨more, rfl⟩ := Nat.exists_eq_add_of_le h
  induction more with
  | zero => rfl
  | succ more ih => rw [← Nat.add_assoc, validateUpTo_succ (by omega), ih (by omega)]

/-- Validation is what one node asks, with the schemas below validated in the same way. -/
theorem validate_eq (schema : Value) : validate schema = validateNode validate schema := by
  rw [← validateUpTo_eq (Nat.le_succ schema.depth)]
  exact validateNode_congr fun child hc => validateUpTo_eq (by omega)

end Validation

end JsonSchema
