import JsonSchema.Proofs.Answer
import Mathlib.Data.List.Forall2

/-!
Two computations that end alike: both with an answer, and the answers are related, or both with a
fault, and the faults are related.

Computations made of parts that end alike end alike, so a comparison of two runs is a comparison
of their parts. Lists are compared element by element, or without regard to order and repetition.
-/

namespace JsonSchema

variable {α β γ δ : Type} {faults : Fault → Fault → Prop} {answers : α → β → Prop}
  {others : γ → δ → Prop}

inductive Related (faults : Fault → Fault → Prop) (answers : α → β → Prop) :
    Except Fault α → Except Fault β → Prop where
  | ok {a : α} {b : β} (h : answers a b) : Related faults answers (.ok a) (.ok b)
  | error {f g : Fault} (h : faults f g) : Related faults answers (.error f) (.error g)

namespace Related

lemma pure {a : α} {b : β} (h : answers a b) :
    Related faults answers (Pure.pure a) (Pure.pure b) := .ok h

lemma bind {x : Except Fault α} {y : Except Fault β} {f : α → Except Fault γ}
    {g : β → Except Fault δ} (h : Related faults answers x y)
    (hf : ∀ a b, answers a b → Related faults others (f a) (g b)) :
    Related faults others (x >>= f) (y >>= g) := by
  cases h with
  | ok h => exact hf _ _ h
  | error h => exact .error h

lemma refl {answers : α → α → Prop} (hf : ∀ f, faults f f) (ha : ∀ a, answers a a)
    (x : Except Fault α) : Related faults answers x x := by
  cases x with
  | ok a => exact .ok (ha a)
  | error f => exact .error (hf f)

lemma mono {faults' : Fault → Fault → Prop} {answers' : α → β → Prop} {x : Except Fault α}
    {y : Except Fault β} (h : Related faults answers x y) (hf : ∀ f g, faults f g → faults' f g)
    (ha : ∀ a b, answers a b → answers' a b) : Related faults' answers' x y := by
  cases h with
  | ok h => exact .ok (ha _ _ h)
  | error h => exact .error (hf _ _ h)

/-- What is related are the answers of the two computations. -/
lemma answer {x : Except Fault α} {y : Except Fault β} (h : Related faults answers x y) :
    Related faults (fun a b => x = .ok a ∧ answers a b) x y := by
  cases h with
  | ok h => exact .ok ⟨rfl, h⟩
  | error h => exact .error h

lemma of_ok {x : Except Fault α} {y : Except Fault β} {a : α} (h : Related faults answers x y)
    (hx : x = .ok a) : ∃ b, y = .ok b ∧ answers a b := by
  subst hx
  cases h with
  | ok h => exact ⟨_, rfl, h⟩

lemma hasAnswer_iff {x : Except Fault α} {y : Except Fault β} (h : Related faults answers x y) :
    HasAnswer x ↔ HasAnswer y := by
  cases h with
  | ok h => exact iff_of_true (hasAnswer_ok _) (hasAnswer_ok _)
  | error h => exact iff_of_false (hasAnswer_error _) (hasAnswer_error _)

/-- Where faults are not compared, it is enough to compare the answers. -/
lemma of_hasAnswer {x : Except Fault α} {y : Except Fault β} (h : HasAnswer x ↔ HasAnswer y)
    (ha : ∀ a b, x = .ok a → y = .ok b → answers a b) :
    Related (fun _ _ => True) answers x y := by
  cases x with
  | ok a =>
    obtain ⟨b, rfl⟩ := h.1 (hasAnswer_ok a)
    exact .ok (ha a b rfl rfl)
  | error f =>
    cases y with
    | ok b => exact absurd (h.2 (hasAnswer_ok b)) (hasAnswer_error f)
    | error g => exact .error trivial

lemma answers_of_ok {a : α} {b : β}
    (h : Related faults answers (Except.ok a : Except Fault α) (.ok b)) : answers a b := by
  cases h with
  | ok h => exact h

end Related

/-- Options are related if both are empty or both hold something, and that is related. -/
lemma option_rel_iff {related : α → β → Prop} {x : Option α} {y : Option β} :
    Option.Rel related x y ↔
      (x = none ∧ y = none) ∨ ∃ a b, x = some a ∧ y = some b ∧ related a b := by
  constructor
  · intro h
    cases h with
    | none => exact .inl ⟨rfl, rfl⟩
    | some h => exact .inr ⟨_, _, rfl, rfl, h⟩
  · rintro (⟨rfl, rfl⟩ | ⟨a, b, rfl, rfl, h⟩)
    · exact .none
    · exact .some h

lemma option_rel_imp {related related' : α → β → Prop} {x : Option α} {y : Option β}
    (h : Option.Rel related x y)
    (himp : ∀ a b, x = some a → y = some b → related a b → related' a b) :
    Option.Rel related' x y := by
  cases h with
  | none => exact .none
  | some h => exact .some (himp _ _ rfl rfl h)

lemma option_rel_bind {related : α → β → Prop} {x : Option α} {y : Option β}
    {f : α → Option γ} {g : β → Option δ} (h : Option.Rel related x y)
    (hf : ∀ a b, x = some a → related a b → Option.Rel others (f a) (g b)) :
    Option.Rel others (x.bind f) (y.bind g) := by
  cases h with
  | none => exact .none
  | some h => exact hf _ _ rfl h

/-! ### Lists whose elements are related -/

/-- Elements that are related one by one are elements of their lists. -/
lemma forall₂_mem {related : α → β → Prop} {xs : List α} {ys : List β}
    (h : List.Forall₂ related xs ys) :
    List.Forall₂ (fun x y => x ∈ xs ∧ y ∈ ys ∧ related x y) xs ys := by
  induction h with
  | nil => exact .nil
  | cons hxy _ ih =>
    refine .cons ⟨by simp, by simp, hxy⟩ (ih.imp fun x y h => ?_)
    exact ⟨List.mem_cons_of_mem _ h.1, List.mem_cons_of_mem _ h.2.1, h.2.2⟩

lemma forall₂_comp {r : α → β → Prop} {s : β → γ → Prop} {t : α → γ → Prop} {xs : List α}
    {ys : List β} {zs : List γ} (h : List.Forall₂ r xs ys) (h' : List.Forall₂ s ys zs)
    (hcomp : ∀ x ∈ xs, ∀ y ∈ ys, ∀ z, r x y → s y z → t x z) : List.Forall₂ t xs zs := by
  induction h generalizing zs with
  | nil =>
    cases h'
    exact .nil
  | cons hxy _ ih =>
    cases h' with
    | cons hyz h' =>
      refine .cons (hcomp _ (by simp) _ (by simp) _ hxy hyz) (ih h' fun x hx y hy => ?_)
      exact hcomp x (by simp [hx]) y (by simp [hy])

/-- Lists are related one by one if and only if they are related at every index. -/
lemma forall₂_iff_getElem? {related : α → β → Prop} {xs : List α} {ys : List β} :
    List.Forall₂ related xs ys ↔ ∀ i : Nat, Option.Rel related xs[i]? ys[i]? := by
  induction xs generalizing ys with
  | nil =>
    cases ys with
    | nil => exact iff_of_true .nil fun _ => .none
    | cons y ys => exact iff_of_false nofun fun h => nomatch h 0
  | cons x xs ih =>
    cases ys with
    | nil => exact iff_of_false nofun fun h => nomatch h 0
    | cons y ys =>
      rw [List.forall₂_cons, ih]
      constructor
      · rintro ⟨hxy, h⟩ (_ | i)
        · exact .some hxy
        · exact h i
      · exact fun h => ⟨Option.rel_some_some.1 (h 0), fun i => h (i + 1)⟩

lemma forall₂_getLast? {related : α → β → Prop} {xs : List α} {ys : List β}
    (h : List.Forall₂ related xs ys) : Option.Rel related xs.getLast? ys.getLast? := by
  induction h with
  | nil => exact .none
  | cons hxy hrest ih =>
    cases hrest with
    | nil => exact .some hxy
    | cons => simpa only [List.getLast?_cons_cons] using ih

lemma forall₂_filter {related : α → β → Prop} {xs : List α} {ys : List β} {p : α → Bool}
    {q : β → Bool} (h : List.Forall₂ related xs ys) (hpq : ∀ x y, related x y → p x = q y) :
    List.Forall₂ related (xs.filter p) (ys.filter q) :=
  List.rel_filter (fun x y hxy => by simp only [hpq x y hxy]) h

/-- Every element of each list has a related one in the other, wherever that stands. -/
structure Matched (related : α → β → Prop) (xs : List α) (ys : List β) : Prop where
  left : ∀ x ∈ xs, ∃ y ∈ ys, related x y
  right : ∀ y ∈ ys, ∃ x ∈ xs, related x y

namespace Matched

variable {related : α → β → Prop} {xs : List α} {ys : List β}

lemma of_forall₂ (h : List.Forall₂ related xs ys) : Matched related xs ys := by
  induction h with
  | nil => exact ⟨nofun, nofun⟩
  | @cons x y xs ys hxy _ ih =>
    refine ⟨?_, ?_⟩
    · rintro z hz
      rcases List.mem_cons.1 hz with rfl | hz
      · exact ⟨y, by simp, hxy⟩
      · obtain ⟨w, hw, h⟩ := ih.left z hz
        exact ⟨w, by simp [hw], h⟩
    · rintro z hz
      rcases List.mem_cons.1 hz with rfl | hz
      · exact ⟨x, by simp, hxy⟩
      · obtain ⟨w, hw, h⟩ := ih.right z hz
        exact ⟨w, by simp [hw], h⟩

/-- What holds of related elements alike holds of all elements alike. -/
lemma forall_iff (h : Matched related xs ys) {p : α → Prop} {q : β → Prop}
    (hpq : ∀ x ∈ xs, ∀ y ∈ ys, related x y → (p x ↔ q y)) :
    (∀ x ∈ xs, p x) ↔ ∀ y ∈ ys, q y := by
  constructor
  · intro hp y hy
    obtain ⟨x, hx, hxy⟩ := h.right y hy
    exact (hpq x hx y hy hxy).1 (hp x hx)
  · intro hq x hx
    obtain ⟨y, hy, hxy⟩ := h.left x hx
    exact (hpq x hx y hy hxy).2 (hq y hy)

lemma any_eq (h : Matched related xs ys) {p : α → Bool} {q : β → Bool}
    (hpq : ∀ x ∈ xs, ∀ y ∈ ys, related x y → p x = q y) : xs.any p = ys.any q := by
  have hall := h.forall_iff (p := fun x => p x = false) (q := fun y => q y = false)
    fun x hx y hy hxy => by rw [hpq x hx y hy hxy]
  rw [Bool.eq_iff_iff, ← not_iff_not, Bool.not_eq_true, Bool.not_eq_true, List.any_eq_false,
    List.any_eq_false]
  simpa using hall

lemma all_eq (h : Matched related xs ys) {p : α → Bool} {q : β → Bool}
    (hpq : ∀ x ∈ xs, ∀ y ∈ ys, related x y → p x = q y) : xs.all p = ys.all q := by
  rw [Bool.eq_iff_iff, List.all_eq_true, List.all_eq_true]
  exact h.forall_iff fun x hx y hy hxy => by rw [hpq x hx y hy hxy]

lemma isEmpty_eq (h : Matched related xs ys) : xs.isEmpty = ys.isEmpty := by
  cases xs with
  | nil =>
    cases ys with
    | nil => rfl
    | cons y ys => simpa using h.right y (by simp)
  | cons x xs =>
    cases ys with
    | nil => simpa using h.left x (by simp)
    | cons y ys => rfl

lemma map {f : α → γ} {g : β → δ} (h : Matched related xs ys)
    (hfg : ∀ x ∈ xs, ∀ y ∈ ys, related x y → others (f x) (g y)) :
    Matched others (xs.map f) (ys.map g) := by
  refine ⟨?_, ?_⟩
  · intro z hz
    obtain ⟨x, hx, rfl⟩ := List.mem_map.1 hz
    obtain ⟨y, hy, hxy⟩ := h.left x hx
    exact ⟨g y, List.mem_map_of_mem hy, hfg x hx y hy hxy⟩
  · intro z hz
    obtain ⟨y, hy, rfl⟩ := List.mem_map.1 hz
    obtain ⟨x, hx, hxy⟩ := h.right y hy
    exact ⟨f x, List.mem_map_of_mem hx, hfg x hx y hy hxy⟩

lemma filter {p : α → Bool} {q : β → Bool} (h : Matched related xs ys)
    (hpq : ∀ x ∈ xs, ∀ y ∈ ys, related x y → p x = q y) :
    Matched related (xs.filter p) (ys.filter q) := by
  refine ⟨?_, ?_⟩
  · intro x hx
    obtain ⟨hx, hp⟩ := List.mem_filter.1 hx
    obtain ⟨y, hy, hxy⟩ := h.left x hx
    exact ⟨y, List.mem_filter.2 ⟨hy, hpq x hx y hy hxy ▸ hp⟩, hxy⟩
  · intro y hy
    obtain ⟨hy, hq⟩ := List.mem_filter.1 hy
    obtain ⟨x, hx, hxy⟩ := h.right y hy
    exact ⟨x, List.mem_filter.2 ⟨hx, hpq x hx y hy hxy ▸ hq⟩, hxy⟩

lemma flatMap {f : α → List γ} {g : β → List δ} (h : Matched related xs ys)
    (hfg : ∀ x ∈ xs, ∀ y ∈ ys, related x y → Matched others (f x) (g y)) :
    Matched others (xs.flatMap f) (ys.flatMap g) := by
  refine ⟨?_, ?_⟩
  · intro z hz
    obtain ⟨x, hx, hz⟩ := List.mem_flatMap.1 hz
    obtain ⟨y, hy, hxy⟩ := h.left x hx
    obtain ⟨w, hw, hzw⟩ := (hfg x hx y hy hxy).left z hz
    exact ⟨w, List.mem_flatMap.2 ⟨y, hy, hw⟩, hzw⟩
  · intro w hw
    obtain ⟨y, hy, hw⟩ := List.mem_flatMap.1 hw
    obtain ⟨x, hx, hxy⟩ := h.right y hy
    obtain ⟨z, hz, hzw⟩ := (hfg x hx y hy hxy).right w hw
    exact ⟨z, List.mem_flatMap.2 ⟨x, hx, hz⟩, hzw⟩

end Matched

/-- The same value, or violations that are related one by one. -/
inductive Verdict.Rel (violations : Violation → Violation → Prop) : Verdict → Verdict → Prop where
  | valid (result : Value) : Rel violations (.valid result) (.valid result)
  | invalid {vs ws : List Violation} (h : List.Forall₂ violations vs ws) :
    Rel violations (.invalid vs) (.invalid ws)

lemma Verdict.Rel.forall₂ {violations : Violation → Violation → Prop} {a b : Verdict}
    (h : Rel violations a b) : List.Forall₂ violations a.violations b.violations := by
  cases h with
  | valid => exact .nil
  | invalid h => exact h

lemma Verdict.Rel.isValid_eq {violations : Violation → Violation → Prop} {a b : Verdict}
    (h : Rel violations a b) : a.isValid = b.isValid := by
  cases h <;> rfl

namespace Outcome

/-- Two outcomes with related ends, and with related notices one by one. -/
structure Related (notices : Notice → Notice → Prop) (faults : Fault → Fault → Prop)
    (answers : α → β → Prop) (x : Outcome α) (y : Outcome β) : Prop where
  notices : List.Forall₂ notices x.notices y.notices
  result : JsonSchema.Related faults answers x.result y.result

namespace Related

variable {notices : Notice → Notice → Prop}

lemma pure {a : α} {b : β} (h : answers a b) :
    Related notices faults answers (Pure.pure a) (Pure.pure b) := ⟨.nil, .ok h⟩

lemma throw {f g : Fault} (h : faults f g) :
    Related notices faults answers (throw f) (throw g) := ⟨.nil, .error h⟩

lemma liftM {x : Except Fault α} {y : Except Fault β} (h : JsonSchema.Related faults answers x y) :
    Related notices faults answers (liftM x) (liftM y) := ⟨.nil, h⟩

lemma bind {x : Outcome α} {y : Outcome β} {f : α → Outcome γ} {g : β → Outcome δ}
    (h : Related notices faults answers x y)
    (hf : ∀ a b, answers a b → Related notices faults others (f a) (g b)) :
    Related notices faults others (x >>= f) (y >>= g) := by
  obtain ⟨xn, xr⟩ := x
  obtain ⟨yn, yr⟩ := y
  obtain ⟨hn, hr⟩ := h
  cases hr with
  | ok h => exact ⟨List.rel_append hn (hf _ _ h).notices, (hf _ _ h).result⟩
  | error h => exact ⟨hn, .error h⟩

/-- Where the answers are the same, what follows may depend on them in the same way. -/
lemma bind_eq {x y : Outcome α} {f : α → Outcome γ} {g : α → Outcome δ}
    (h : Related notices faults Eq x y)
    (hf : ∀ a, Related notices faults others (f a) (g a)) :
    Related notices faults others (x >>= f) (y >>= g) :=
  h.bind fun a _ hab => hab ▸ hf a

end Related

end Outcome

end JsonSchema
