import JsonSchema.Validation.Validate
import Mathlib.Tactic.Lemma

/-!
When a computation that may end in a fault has an answer: all its parts have one.
-/

namespace JsonSchema

variable {α β : Type}

lemma except_bind_eq_ok {ε : Type} {x : Except ε α} {f : α → Except ε β} {b : β} :
    x >>= f = .ok b ↔ ∃ a, x = .ok a ∧ f a = .ok b := by
  cases x <;> simp [bind, Except.bind]

lemma except_map_eq_ok {ε : Type} {x : Except ε α} {f : α → β} {b : β} :
    x.map f = .ok b ↔ ∃ a, x = .ok a ∧ f a = b := by
  cases x <;> simp [Except.map]

lemma except_mapError_eq_ok {ε δ : Type} {x : Except ε α} {f : ε → δ} {a : α} :
    x.mapError f = .ok a ↔ x = .ok a := by
  cases x with
  | error e => exact iff_of_false nofun nofun
  | ok b => constructor <;> (intro h; cases h; rfl)

lemma exists_of_isOk {x : Except Fault α} (h : x.isOk = true) : ∃ a, x = .ok a := by
  cases x with
  | error _ => cases h
  | ok a => exact ⟨a, rfl⟩

lemma exists_of_any {ε : Type} {x : Except ε α} {p : α → Bool} (h : x.toOption.any p = true) :
    ∃ a, x = .ok a ∧ p a = true := by
  cases x with
  | error _ => cases h
  | ok a => exact ⟨a, rfl, h⟩

/-- A computation that does not end in a fault. -/
def HasAnswer (x : Except Fault α) : Prop := ∃ a, x = .ok a

@[simp] lemma hasAnswer_ok (a : α) : HasAnswer (.ok a) := ⟨a, rfl⟩

@[simp] lemma hasAnswer_pure (a : α) : HasAnswer (pure a) := ⟨a, rfl⟩

@[simp] lemma hasAnswer_error (f : Fault) : ¬HasAnswer (.error f : Except Fault α) := nofun

lemma hasAnswer_bind {x : Except Fault α} {f : α → Except Fault β} :
    HasAnswer (x >>= f) ↔ ∃ a, x = .ok a ∧ HasAnswer (f a) := by
  cases x <;> simp [bind, Except.bind]

/-- Where what follows always has an answer, the first part decides. -/
lemma hasAnswer_bind_of {x : Except Fault α} {f : α → Except Fault β}
    (h : ∀ a, x = .ok a → HasAnswer (f a)) : HasAnswer (x >>= f) ↔ HasAnswer x := by
  rw [hasAnswer_bind]
  constructor
  · rintro ⟨a, hx, -⟩
    exact ⟨a, hx⟩
  · rintro ⟨a, hx⟩
    exact ⟨a, hx, h a hx⟩

namespace Outcome

lemma hasAnswer_bind {x : Outcome α} {f : α → Outcome β} :
    HasAnswer (x >>= f).result ↔ ∃ a, x.result = .ok a ∧ HasAnswer (f a).result := by
  rw [result_bind, JsonSchema.hasAnswer_bind]

lemma hasAnswer_bind_of_hasAnswer {x : Outcome α} {f : α → Outcome β} (hx : HasAnswer x.result)
    (h : ∀ a, x.result = .ok a → HasAnswer (f a).result) : HasAnswer (x >>= f).result := by
  obtain ⟨a, ha⟩ := hx
  exact hasAnswer_bind.2 ⟨a, ha, h a ha⟩

lemma result_bind_eq_ok {x : Outcome α} {f : α → Outcome β} {b : β} :
    (x >>= f).result = .ok b ↔ ∃ a, x.result = .ok a ∧ (f a).result = .ok b := by
  rw [result_bind, except_bind_eq_ok]

lemma result_map (f : α → β) (x : Outcome α) : (f <$> x).result = f <$> x.result := by
  show (x >>= fun a => pure (f a)).result = _
  rw [result_bind]
  cases x.result <;> rfl

/-- What follows a computation matters only where the computation has an answer. -/
lemma bind_congr_of_ok {x : Outcome α} {f g : α → Outcome β}
    (h : ∀ a, x.result = .ok a → f a = g a) : x >>= f = x >>= g := by
  show andThen x f = andThen x g
  unfold andThen
  split
  · rename_i a ha
    rw [h a ha]
  · rfl

end Outcome

end JsonSchema
