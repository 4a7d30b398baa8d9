import JsonSchema.Proofs.Correspondence

/-!
Keywords that do not apply.

`Value.erase` takes out of a schema, at every depth, the keywords that the type of their node has
no use for. Main statement: validation does not see the difference. It ends in the same way, with
the same faults, values and violations, and reports the same on the way; only the schemas that
violations carry are the erased ones.
-/

namespace JsonSchema

namespace Value

def isAmong (names : List String) : Value → Bool
  | string ⟨s, []⟩ => names.contains s
  | _ => false

@[simp] lemma isAmong_ofString {names : List String} {name : String} :
    isAmong names (string (Text.ofString name)) = names.contains name :=
  rfl

mutual

/-- A value in the place of a keyword of some role, without the keywords that do not apply in the
schemas that it holds. -/
def eraseAs : Role → Value → Value
  | .schema, object keywords | .items, object keywords =>
    object (eraseKeywords (Entries.appliedNames keywords) keywords)
  | .items, array kind schemas => array kind (eraseItems schemas)
  | .properties, object children | .patterns, object children => object (eraseChildren children)
  | .keySchema, object keywords =>
    object (List.filter (fun e => isAmong textKeywords e.1) keywords)
  | _, v => v

def eraseKeywords (names : List String) : List (Value × Value) → List (Value × Value)
  | [] => []
  | (key, v) :: rest =>
    if isAmong names key then (key, eraseAs (.ofKey key) v) :: eraseKeywords names rest
    else eraseKeywords names rest

def eraseItems : List Value → List Value
  | [] => []
  | v :: rest => eraseAs .schema v :: eraseItems rest

def eraseChildren : List (Value × Value) → List (Value × Value)
  | [] => []
  | (key, v) :: rest => (key, eraseAs .schema v) :: eraseChildren rest

end

/-- A schema without the keywords that do not apply. -/
def erase (schema : Value) : Value := eraseAs .schema schema

/-- A schema of keys without the keywords that do not apply. -/
def eraseKeySchema (schema : Value) : Value := eraseAs .keySchema schema

end Value

/-! ### Lookups in an erased node -/

namespace Entries

lemma named?_eraseKeywords (names : List String) (keywords : Entries) (name : String) :
    named? (Value.eraseKeywords names keywords) name =
      if name ∈ names then (keywords.named? name).map (Value.eraseAs (.ofName name))
      else none := by
  induction keywords with
  | nil => simp [Value.eraseKeywords]
  | cons e rest ih =>
    obtain ⟨key, v⟩ := e
    by_cases hkey : key = .string name
    · subst hkey
      by_cases hn : name ∈ names
      · simp [Value.eraseKeywords, hn]
      · simpa [Value.eraseKeywords, hn] using ih
    · rw [named?_cons_of_ne hkey, ← ih, Value.eraseKeywords]
      split
      · exact named?_cons_of_ne hkey _
      · rfl

lemma named?_filter (names : List String) (keywords : Entries) {name : String}
    (hn : name ∈ names) :
    named? (List.filter (fun e => Value.isAmong names e.1) keywords) name =
      keywords.named? name := by
  induction keywords with
  | nil => rfl
  | cons e rest ih =>
    obtain ⟨key, v⟩ := e
    by_cases hkey : key = .string name
    · subst hkey
      simp [hn]
    · rw [named?_cons_of_ne hkey, ← ih, List.filter_cons]
      split
      · exact named?_cons_of_ne hkey _
      · rfl

lemma named?_erased {keywords : Entries} {name : String}
    (hn : name ∈ keywords.appliedNames) :
    named? (Value.eraseKeywords keywords.appliedNames keywords) name =
      (keywords.named? name).map (Value.eraseAs (.ofName name)) := by
  rw [named?_eraseKeywords, if_pos hn]

lemma declaredType_erased (keywords : Entries) :
    declaredType (Value.eraseKeywords keywords.appliedNames keywords) = keywords.declaredType := by
  have hfree : Value.eraseAs (.ofName "type") = id := by
    funext v
    cases v <;> rfl
  cases hd : keywords.declaredType with
  | unknown =>
    have : named? (Value.eraseKeywords keywords.appliedNames keywords) "type" = none := by
      rw [named?_eraseKeywords, appliedNames, hd]
      rfl
    rw [declaredType, this]
    rfl
  | _ =>
    have hn : "type" ∈ keywords.appliedNames := by simp [appliedNames, hd]
    rw [← hd, declaredType, named?_erased hn, hfree, Option.map_id]
    rfl

end Entries

/-! ### Erased schemas correspond -/

namespace Value

lemma forall₂_eraseItems (schemas : List Value) :
    List.Forall₂ (fun s t => t = s.erase) schemas (eraseItems schemas) := by
  induction schemas with
  | nil => exact .nil
  | cons s rest ih => exact .cons rfl ih

lemma childrenMatch_erase (children : Entries) :
    ChildrenMatch (fun s t => t = s.erase) children (eraseChildren children) := by
  induction children with
  | nil => exact .nil
  | cons e rest ih => exact .cons ⟨rfl, rfl⟩ ih

lemma matches_eraseAs (role : Role) (v : Value) :
    role.Matches (fun s t => t = s.erase) (fun s t => t = s.eraseKeySchema) (some v)
      (some (eraseAs role v)) := by
  cases role with
  | schema => exact .some rfl
  | keySchema => exact .some rfl
  | items =>
    cases v with
    | array kind schemas => exact .some (.each (forall₂_eraseItems schemas))
    | _ => exact .some (.one rfl rfl)
  | properties =>
    cases v with
    | object children => exact .some (.children (childrenMatch_erase children))
    | _ => exact .some (.other rfl)
  | patterns =>
    cases v with
    | object children => exact .some (.children (childrenMatch_erase children))
    | _ => exact .some (.other rfl)
  | _ => cases v <;> rfl

lemma matches_map_eraseAs (role : Role) (v : Option Value) :
    role.Matches (fun s t => t = s.erase) (fun s t => t = s.eraseKeySchema) v
      (v.map (eraseAs role)) := by
  cases v with
  | none => cases role <;> first | exact .none | rfl
  | some v => exact matches_eraseAs role v

lemma nodesMatch_erase (keywords : Entries) :
    NodesMatch (fun s t => t = s.erase) (fun s t => t = s.eraseKeySchema) keywords
      (eraseKeywords (Entries.appliedNames keywords) keywords) where
  default := by
    have hfree : eraseAs (.ofName "default") = id := by
      funext v
      cases v <;> rfl
    have hn : "default" ∈ keywords.appliedNames := by
      unfold Entries.appliedNames
      split <;> simp
    rw [Entries.defined?, Entries.defined?, Entries.named?_erased hn, hfree, Option.map_id]
    rfl
  declared := (Entries.declaredType_erased keywords).symm
  applied := by
    intro type ht name hname
    have hn : name ∈ keywords.appliedNames := by simp [Entries.appliedNames, ht, hname]
    rw [Entries.named?_erased hn]
    exact matches_map_eraseAs _ _

end Value

/-- Schemas and what is left of them, at the same places. -/
def erasure : Correspondence where
  schema s t := t = s.erase
  keySchema s t := t = s.eraseKeySchema
  schemaLocation := Eq
  valuePath := Eq
  schemas_match := by
    rintro s t rfl
    cases s with
    | object keywords => exact .node (Value.nodesMatch_erase keywords)
    | _ => exact .other rfl
  keySchemas_match := by
    rintro s t rfl
    cases s with
    | object keywords => exact .node fun name hn => (Entries.named?_filter _ keywords hn).symm
    | _ => exact .other rfl
  push_schemaLocation := @Location.push_congr
  push_valuePath := @Location.push_congr

/-! ### The same answers -/

/-- The same violation, except that the schema that it carries is erased. -/
structure Violation.ErasedTo (v w : Violation) : Prop where
  value : w.value = v.value
  reason : w.reason = v.reason
  schemaLocation : w.schemaLocation = v.schemaLocation
  valuePath : w.valuePath = v.valuePath
  schema : w.schema = v.schema.erase ∨ w.schema = v.schema.eraseKeySchema

inductive Verdict.ErasedTo : Verdict → Verdict → Prop where
  | valid (result : Value) : ErasedTo (.valid result) (.valid result)
  | invalid {vs ws : List Violation} (h : List.Forall₂ Violation.ErasedTo vs ws) :
    ErasedTo (.invalid vs) (.invalid ws)

lemma erasedTo_of_violations {v w : Violation} (h : erasure.Violations v w) : v.ErasedTo w :=
  ⟨h.value.symm, h.reason.symm, h.places.schema.symm, h.places.value.symm, h.schema⟩

lemma erasedTo_of_verdicts {a b : Verdict} (h : erasure.Verdicts a b) : a.ErasedTo b := by
  cases h with
  | valid result => exact .valid result
  | invalid h => exact .invalid (h.imp fun _ _ => erasedTo_of_violations)

lemma eq_of_faults {f g : Fault} (h : erasure.Faults f g) : f = g := h.eq fun _ _ => id

lemma eq_of_notices {n m : Notice} (h : erasure.Notices n m) : n = m :=
  h.eq (fun _ _ => id) fun _ _ => id

/-- **Keywords that do not apply are never read.** For every schema, well-formed or not, every value
and every place, validation ends alike with and without them. -/
theorem validate_erase (schema value : Value) (place : Place) :
    (validate schema.erase value place).notices = (validate schema value place).notices ∧
      Related Eq Verdict.ErasedTo (validate schema value place).result
        (validate schema.erase value place).result := by
  have h := erasure.agree (s := schema) rfl value (p := place) ⟨rfl, rfl⟩
  refine ⟨?_, h.result.mono (fun _ _ => eq_of_faults) fun _ _ => erasedTo_of_verdicts⟩
  have hn : List.Forall₂ Eq (validate schema value place).notices
      (validate schema.erase value place).notices := h.notices.imp fun _ _ => eq_of_notices
  exact (List.forall₂_eq_eq_eq ▸ hn).symm

end JsonSchema
