import Mathlib.Tactic.Lemma

/-!
How computations end.

A computation ends in one of two ways, an answer or an error, and `Ends` says something of both.
`Passes` does so for a computation with a state: it leads from states of one kind to states of that
kind. Both hold of a computation if they hold of its parts.
-/

namespace JsonSchema

variable {ε σ α β : Type}

/-- An answer is so, and an error is so. -/
def Ends (told : ε → Prop) (right : α → Prop) : Except ε α → Prop
  | .ok a => right a
  | .error e => told e

namespace Ends

variable {told : ε → Prop} {right right' : α → Prop} {x : Except ε α}

lemma ok {a : α} (h : right a) : Ends told right (.ok a) := h

lemma error {e : ε} (h : told e) : Ends told right (.error e) := h

lemma mono (h : Ends told right x) (hr : ∀ a, right a → right' a) : Ends told right' x := by
  cases x with
  | ok a => exact hr a h
  | error e => exact h

lemma bind {f : α → Except ε β} {behind : β → Prop} (h : Ends told right x)
    (hf : ∀ a, right a → Ends told behind (f a)) : Ends told behind (x >>= f) := by
  cases x with
  | ok a => exact hf a h
  | error e => exact h

lemma map {f : α → β} {behind : β → Prop} (h : Ends told right x)
    (hf : ∀ a, right a → behind (f a)) : Ends told behind (x.map f) := by
  cases x with
  | ok a => exact hf a h
  | error e => exact h

/-- What every step keeps holds behind the last one. -/
lemma foldlM {f : α → β → Except ε α} (hf : ∀ a b, right a → Ends told right (f a b)) {a : α}
    (ha : right a) (bs : List β) : Ends told right (bs.foldlM f a) := by
  induction bs generalizing a with
  | nil => exact .ok ha
  | cons b bs ih => exact (hf a b ha).bind fun _ h => ih h

end Ends

/-- From states of a kind to such states, or to an error that is so. -/
def Passes (kept : σ → Prop) (told : ε → Prop) (m : StateT σ (Except ε) α) : Prop :=
  ∀ s, kept s → Ends told (fun r => kept r.2) (m s)

namespace Passes

variable {kept : σ → Prop} {told : ε → Prop} {m m' : StateT σ (Except ε) α}

lemma pure (a : α) : Passes kept told (Pure.pure a : StateT σ (Except ε) α) := fun _ hs => .ok hs

lemma throw {e : ε} (h : told e) :
    Passes kept told (MonadExcept.throw e : StateT σ (Except ε) α) := fun _ _ => .error h

lemma bind {f : α → StateT σ (Except ε) β} (h : Passes kept told m)
    (hf : ∀ a, Passes kept told (f a)) : Passes kept told (m >>= f) :=
  fun s hs => Ends.bind (h s hs) fun r hr => hf r.1 r.2 hr

lemma getBind {f : σ → StateT σ (Except ε) α} (hf : ∀ s, kept s → Passes kept told (f s)) :
    Passes kept told (get >>= f) := fun s hs => hf s hs s hs

lemma liftBind {x : Except ε α} {right : α → Prop} {f : α → StateT σ (Except ε) β}
    (h : Ends told right x) (hf : ∀ a, right a → Passes kept told (f a)) :
    Passes kept told (liftM x >>= f) := by
  intro s hs
  cases x with
  | ok a => exact hf a h s hs
  | error e => exact h

lemma set {s : σ} (h : kept s) :
    Passes kept told (MonadStateOf.set s : StateT σ (Except ε) PUnit) :=
  fun _ _ => .ok h

lemma update {f : σ → σ} (h : ∀ s, kept s → kept (f s)) :
    Passes kept told (modify f : StateT σ (Except ε) PUnit) := fun s hs => .ok (h s hs)

lemma ite {p : Prop} [Decidable p] (h : Passes kept told m) (h' : Passes kept told m') :
    Passes kept told (if p then m else m') := by
  split
  · exact h
  · exact h'

lemma forM {f : α → StateT σ (Except ε) PUnit} (hf : ∀ a, Passes kept told (f a)) (as : List α) :
    Passes kept told (as.forM f) := by
  induction as with
  | nil => exact .pure _
  | cons a as ih => exact .bind (hf a) fun _ => ih

end Passes

end JsonSchema
