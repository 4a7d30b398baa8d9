import JsonSchema.Proofs.Number
import Mathlib.Algebra.Order.Field.Rat
import Mathlib.Data.Rat.Cast.Order
import Mathlib.Order.WithBot
import Mathlib.Tactic.FieldSimp
import Mathlib.Tactic.Linarith
import Mathlib.Tactic.NormNum
import Mathlib.Tactic.Ring

/-!
The exact values of numbers.

A finite double stands for a rational number that its sign, exponent and fraction make up. Its place
on the number line is that number, measured in least positive doubles, so what is decided on places
is true of exact values: order, with the infinities at the ends of the line, and which numbers are
whole.
-/

namespace JsonSchema

-- no proof needs the digits of the unit
attribute [local irreducible] Double.unit

/-! ### Doubles -/

namespace Double

/-- The size that an exponent and a fraction stand for: a fraction of 52 bits behind a one, times a
power of two; without the one for the least exponent. -/
def size (exponent : Fin 2047) (fraction : Fin fractionCount) : ℚ :=
  if exponent.val = 0 then fraction.val / 2 ^ 52 * 2 ^ (-1022 : ℤ)
  else (1 + fraction.val / 2 ^ 52) * 2 ^ ((exponent.val : ℤ) - 1023)

/-- The positive double with an exponent and a fraction. -/
def positive (exponent fraction : ℕ) : Double :=
  .finite false ⟨exponent % 2047, Nat.mod_lt _ (by decide)⟩
    ⟨fraction % fractionCount, Nat.mod_lt _ (by decide)⟩

/-- The exact value of a finite double. -/
def rational? : Double → Option ℚ
  | finite negative exponent fraction =>
    some (if negative then -size exponent fraction else size exponent fraction)
  | _ => none

lemma cast_pow_two (k : Nat) : ((Nat.pow 2 k : Nat) : ℚ) = 2 ^ k := Nat.cast_pow 2 k

lemma unit_eq : (unit : ℚ) = 2 ^ (unitBits : ℤ) := by
  unfold unit
  rw [cast_pow_two, zpow_natCast]

lemma unit_pos : (0 : ℚ) < unit := by
  exact_mod_cast Nat.pos_of_ne_zero unit_ne_zero

lemma size_mul_unit (exponent : Fin 2047) (fraction : Fin fractionCount) :
    size exponent fraction * unit = magnitude exponent fraction := by
  have htwo : (2 : ℚ) ≠ 0 := two_ne_zero
  rw [unit_eq]
  unfold size magnitude
  split
  · have hbits : (-1022 : ℤ) + unitBits = (52 : ℕ) := rfl
    rw [mul_assoc, ← zpow_add₀ htwo, hbits, zpow_natCast]
    exact div_mul_cancel₀ _ (pow_ne_zero 52 htwo)
  · have hbits : (exponent.val : ℤ) - 1023 + unitBits = (52 : ℕ) + (exponent.val - 1 : ℕ) := by
      unfold unitBits
      omega
    rw [mul_assoc, ← zpow_add₀ htwo, hbits, zpow_add₀ htwo, zpow_natCast, zpow_natCast, ← mul_assoc,
      add_mul, one_mul, div_mul_cancel₀ _ (pow_ne_zero 52 htwo), Nat.cast_mul, cast_pow_two]
    norm_num

/-- The exact value of a double is its multiple of the least positive one. -/
lemma rational?_eq (x : Double) : x.rational? = x.scaled?.map fun s : ℤ => (s : ℚ) / unit := by
  cases x with
  | finite negative exponent fraction =>
    have hsize := eq_div_of_mul_eq unit_pos.ne' (size_mul_unit exponent fraction)
    cases negative <;> simp [rational?, scaled?, signed, hsize, neg_div]
  | _ => rfl

end Double

/-! ### Numbers -/

namespace Number

/-- The exact value of a number, unless it is NaN or infinite. -/
def rational? : Number → Option ℚ
  | int n => some n
  | double x => x.rational?

/-- The place of a number on the line of the rationals and two infinities; NaN has none. -/
def extended? : Number → Option (WithBot (WithTop ℚ))
  | double (.infinite negative) => some (if negative then ⊥ else ⊤)
  | x => x.rational?.map fun q : ℚ => ((q : WithTop ℚ) : WithBot (WithTop ℚ))

end Number

/-- The place that a rank stands for. -/
def Rank.extended : Rank → WithBot (WithTop ℚ)
  | negInfinity => ⊥
  | finite scaled => (((scaled : ℚ) / Double.unit : ℚ) : WithTop ℚ)
  | posInfinity => ((⊤ : WithTop ℚ) : WithBot (WithTop ℚ))

lemma Rank.le_iff {a b : Rank} : Rank.le a b = true ↔ a.extended ≤ b.extended := by
  cases a with
  | negInfinity => simp [Rank.le, Rank.extended]
  | finite s =>
    cases b with
    | negInfinity => simp [Rank.le, Rank.extended]
    | finite t =>
      simp only [Rank.le, Rank.extended, decide_eq_true_iff, WithBot.coe_le_coe,
        WithTop.coe_le_coe, div_le_div_iff_of_pos_right Double.unit_pos, Int.cast_le]
    | posInfinity => simp [Rank.le, Rank.extended]
  | posInfinity => cases b <;> simp [Rank.le, Rank.extended]

lemma Rank.lt_iff {a b : Rank} : Rank.lt a b = true ↔ a.extended < b.extended := by
  rw [Rank.lt, Bool.not_eq_true', ← Bool.not_eq_true, Rank.le_iff, not_le]

lemma Rank.extended_injective : Function.Injective Rank.extended := by
  intro a b h
  have hle := Rank.le_iff.2 h.le
  have hge := Rank.le_iff.2 h.ge
  cases a <;> cases b <;> simp_all [Rank.le]
  omega

namespace Number

/-- An integer is that multiple of one. -/
lemma div_unit (n : ℤ) : ((n * Double.unit : ℤ) : ℚ) / Double.unit = n := by
  push_cast
  exact mul_div_cancel_right₀ _ Double.unit_pos.ne'

lemma extended?_eq (x : Number) : x.extended? = x.rank?.map Rank.extended := by
  cases x with
  | int n => simp only [extended?, rational?, rank?, Rank.extended, Option.map_some, div_unit n]
  | double d =>
    cases d with
    | infinite negative => cases negative <;> rfl
    | _ => simp [extended?, rational?, Double.rational?_eq, Double.scaled?, rank?, Rank.extended]

lemma rational?_eq_some {x : Number} {q : ℚ} : x.rational? = some q ↔
    ∃ scaled : ℤ, x.rank? = some (.finite scaled) ∧ scaled / Double.unit = q := by
  cases x with
  | int n =>
    simp only [rational?, rank?, Option.some.injEq, Rank.finite.injEq, exists_eq_left', div_unit]
  | double d =>
    rw [rational?, Double.rational?_eq]
    cases d with
    | infinite negative => cases negative <;> simp [rank?, Double.scaled?]
    | _ => simp [rank?, Double.scaled?]

/-- Places are compared as exact values are. -/
lemma compareBy_iff {rel : Rank → Rank → Bool}
    {r : WithBot (WithTop ℚ) → WithBot (WithTop ℚ) → Prop}
    (h : ∀ a b : Rank, rel a b = true ↔ r a.extended b.extended) {x y : Number} :
    compareBy rel x y = true ↔ ∃ p q, x.extended? = some p ∧ y.extended? = some q ∧ r p q := by
  rw [extended?_eq, extended?_eq, compareBy]
  cases x.rank? with
  | none => simp
  | some a =>
    cases y.rank? with
    | none => simp
    | some b => simp [h]

lemma le_iff {x y : Number} : Number.le x y = true ↔
    ∃ p q, x.extended? = some p ∧ y.extended? = some q ∧ p ≤ q :=
  compareBy_iff fun _ _ => Rank.le_iff

lemma lt_iff {x y : Number} : Number.lt x y = true ↔
    ∃ p q, x.extended? = some p ∧ y.extended? = some q ∧ p < q :=
  compareBy_iff fun _ _ => Rank.lt_iff

/-- Numbers are equal if and only if they have one exact value; NaN has none. -/
lemma eq_iff_extended? {x y : Number} : Number.eq x y = true ↔
    ∃ p, x.extended? = some p ∧ y.extended? = some p := by
  have hrank : ∀ a b : Rank, (a == b) = true ↔ a.extended = b.extended := fun a b =>
    beq_iff_eq.trans Rank.extended_injective.eq_iff.symm
  rw [Number.eq, compareBy_iff hrank]
  constructor
  · rintro ⟨p, _, hx, hy, rfl⟩
    exact ⟨p, hx, hy⟩
  · rintro ⟨p, hx, hy⟩
    exact ⟨p, p, hx, hy, rfl⟩

/-! ### Whole numbers -/

/-- Whether a number is whole: an integer by its exact value, or infinite. -/
def IsWhole (x : Number) : Prop :=
  (∃ n : ℤ, x.rational? = some (n : ℚ)) ∨ ∃ negative, x = .double (.infinite negative)

lemma emod_unit_eq_zero_iff (s : ℤ) :
    s % Double.unit = 0 ↔ ∃ n : ℤ, (s : ℚ) / Double.unit = n := by
  constructor
  · intro h
    obtain ⟨n, rfl⟩ := Int.dvd_of_emod_eq_zero h
    exact ⟨n, by rw [Int.mul_comm, div_unit]⟩
  · rintro ⟨n, hn⟩
    rw [div_eq_iff Double.unit_pos.ne'] at hn
    have hs : s = n * Double.unit := by exact_mod_cast hn
    rw [hs, Int.mul_emod_left]

lemma isIntegral_iff {x : Number} : x.isIntegral = true ↔ x.IsWhole := by
  cases x with
  | int n => exact iff_of_true rfl (.inl ⟨n, rfl⟩)
  | double d =>
    cases d with
    | nan => exact iff_of_false Bool.false_ne_true (by simp [IsWhole, rational?, Double.rational?])
    | infinite negative => exact iff_of_true rfl (.inr ⟨negative, rfl⟩)
    | finite negative exponent fraction =>
      rw [isIntegral_eq, rank?, Option.any_some, decide_eq_true_iff, emod_unit_eq_zero_iff]
      simp [IsWhole, rational?, Double.rational?_eq, Double.scaled?]

end Number

end JsonSchema
