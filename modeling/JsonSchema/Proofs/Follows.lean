import JsonSchema.Proofs.Answer

/-!
A computation that has an answer wherever another one has, and a related one.

The comparison goes one way: nothing is said of the first computation where the second ends in a
fault. Computations made of parts that follow part by part follow as a whole.
-/

namespace JsonSchema

variable {α β γ δ : Type} {answers : α → β → Prop} {others : γ → δ → Prop}

/-- Where `y` has an answer, `x` has a related one. -/
def Follows (answers : α → β → Prop) (x : Except Fault α) (y : Except Fault β) : Prop :=
  ∀ b, y = .ok b → ∃ a, x = .ok a ∧ answers a b

namespace Follows

lemma pure {a : α} {b : β} (h : answers a b) : Follows answers (Pure.pure a) (Pure.pure b) := by
  rintro _ ⟨⟩
  exact ⟨a, rfl, h⟩

lemma refl {answers : α → α → Prop} (h : ∀ a, answers a a) (x : Except Fault α) :
    Follows answers x x :=
  fun a hx => ⟨a, hx, h a⟩

lemma bind {x : Except Fault α} {y : Except Fault β} {f : α → Except Fault γ}
    {g : β → Except Fault δ} (h : Follows answers x y)
    (hf : ∀ a b, answers a b → Follows others (f a) (g b)) :
    Follows others (x >>= f) (y >>= g) := by
  intro d hd
  obtain ⟨b, hb, hd⟩ := except_bind_eq_ok.1 hd
  obtain ⟨a, ha, hab⟩ := h b hb
  obtain ⟨c, hc, hcd⟩ := hf a b hab d hd
  exact ⟨c, except_bind_eq_ok.2 ⟨a, ha, hc⟩, hcd⟩

end Follows

namespace Outcome

def Follows (answers : α → β → Prop) (x : Outcome α) (y : Outcome β) : Prop :=
  JsonSchema.Follows answers x.result y.result

namespace Follows

lemma pure {a : α} {b : β} (h : answers a b) : Follows answers (Pure.pure a) (Pure.pure b) :=
  JsonSchema.Follows.pure h

lemma liftM {x : Except Fault α} {y : Except Fault β} (h : JsonSchema.Follows answers x y) :
    Follows answers (liftM x) (liftM y) := h

lemma bind {x : Outcome α} {y : Outcome β} {f : α → Outcome γ} {g : β → Outcome δ}
    (h : Follows answers x y) (hf : ∀ a b, answers a b → Follows others (f a) (g b)) :
    Follows others (x >>= f) (y >>= g) := by
  unfold Follows
  rw [result_bind, result_bind]
  exact JsonSchema.Follows.bind h hf

/-- After one and the same computation. -/
lemma bind_same {f : α → Outcome γ} {g : α → Outcome δ} (x : Outcome α)
    (hf : ∀ a, Follows others (f a) (g a)) : Follows others (x >>= f) (x >>= g) :=
  bind (JsonSchema.Follows.refl (fun _ => rfl) x.result) fun a _ hab => hab ▸ hf a

end Follows

end Outcome

end JsonSchema
