import JsonSchema.Proofs.Correspondence
import JsonSchema.Proofs.Path

/-!
Places are labels: where a validation starts has no influence on its answer.

Two validations of one value against one schema, at two places, run in step; their places differ
in the beginning alone.
-/

namespace JsonSchema

lemma Role.matches_self (role : Role) (v : Option Value) : role.Matches Eq Eq v v := by
  have hone : Option.Rel Eq v v := by
    cases v with
    | none => exact .none
    | some v => exact .some rfl
  have hmembers : Option.Rel (MembersMatch Eq) v v := by
    cases v with
    | none => exact .none
    | some v =>
      cases v with
      | object children => exact .some (.children (List.forall₂_same.2 fun _ _ => ⟨rfl, rfl⟩))
      | _ => exact .some (.other rfl)
  have hitems : Option.Rel (ItemsMatch Eq) v v := by
    cases v with
    | none => exact .none
    | some v =>
      cases v with
      | array kind schemas => exact .some (.each (List.forall₂_refl _))
      | _ => exact .some (.one rfl rfl)
  cases role <;> first | exact hone | exact hmembers | exact hitems | exact rfl

lemma schemasMatch_self {opens : Prop} (schema : Value) :
    SchemasMatch opens Eq Eq schema schema := by
  cases schema with
  | object keywords => exact .node ⟨rfl, rfl, fun _ _ _ _ => Role.matches_self _ _⟩
  | _ => exact .other rfl

lemma keySchemasMatch_self {opens : Prop} (schema : Value) :
    KeySchemasMatch opens schema schema := by
  cases schema with
  | object keywords => exact .node fun _ _ => rfl
  | _ => exact .other rfl

/-- The same location below two others. -/
def Location.Below (l m l' m' : Location) : Prop :=
  ∃ steps, l' = l.extend steps ∧ m' = m.extend steps

lemma Location.Below.push {l m l' m' : Location} (h : Below l m l' m') (step : Step) :
    Below l m (l'.push step) (m'.push step) := by
  obtain ⟨steps, rfl, rfl⟩ := h
  exact ⟨steps ++ [step], by simp [Location.extend, Location.push]⟩

lemma Location.below_self (l m : Location) : Below l m l m :=
  ⟨[], by simp [Location.extend]⟩

/-- Each schema with itself, at places that begin differently and go on alike. -/
def relocation (p q : Place) : Correspondence where
  schema := Eq
  keySchema := Eq
  schemaLocation := Location.Below p.schema q.schema
  valuePath := Location.Below p.value q.value
  schemas_match := by
    rintro s _ rfl
    exact schemasMatch_self s
  keySchemas_match := by
    rintro s _ rfl
    exact keySchemasMatch_self s
  push_schemaLocation step h := h.push step
  push_valuePath step h := h.push step

lemma validate_relocated (schema value : Value) (p q : Place) :
    (relocation p q).Outcomes (relocation p q).Verdicts (validate schema value p)
      (validate schema value q) :=
  (relocation p q).agree rfl value ⟨Location.below_self .., Location.below_self ..⟩

/-- A value that is accepted at one place is accepted at every place, with the same result. -/
lemma valid_at_place {schema value w : Value} {p : Place}
    (h : (validate schema value p).result = .ok (.valid w)) (q : Place) :
    (validate schema value q).result = .ok (.valid w) := by
  obtain ⟨verdict, hq, hv⟩ := (validate_relocated schema value p q).result.of_ok h
  cases hv
  exact hq

/-- A value that a schema accepts as it is, at every place. -/
def Stays (schema value : Value) : Prop :=
  ∀ place, (validate schema value place).result = .ok (.valid value)

lemma stays_of_valid {schema value : Value} {place : Place}
    (h : (validate schema value place).result = .ok (.valid value)) : Stays schema value :=
  valid_at_place h

end JsonSchema
