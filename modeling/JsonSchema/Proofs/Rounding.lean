import JsonSchema.Proofs.Rational
import Mathlib.Algebra.Order.Field.Basic
import Mathlib.Algebra.Order.Ring.Abs

/-!
Integers as doubles: the nearest one.

Taking a size to 53 significant bits leaves it within half a step of the grid of such sizes, and
above the first of them every finite double is on that grid. Main statements: the double that an
integer counts as is the nearest one, of which there is no other with the same claim, and an integer
counts as none exactly if it is nearer to two to the power of 1024 than to the largest double, or as
near.
-/

namespace JsonSchema

namespace Double

/-- Whether the last bit of the fraction is zero. -/
def isEven : Double → Bool
  | finite _ _ fraction => fraction.val % 2 = 0
  | _ => false

/-- A finite double that no other one is nearer to the integer than; if another one is as near, the
one whose fraction is even. -/
def IsNearest (x : Double) (n : ℤ) : Prop :=
  ∃ p, x.rational? = some p ∧ ∀ y q, rational? y = some q →
    |p - n| ≤ |q - n| ∧ (|p - n| = |q - n| → q = p ∨ x.isEven = true)

/-! ### Rounding a quotient -/

/-- A quotient is rounded down over at most half a step, or up over at most half a step, and over
half a step to the even integer. -/
lemma roundDiv_cases (num den : ℕ) :
    (roundDiv num den * den : ℕ) - (num : ℤ) = -(num % den : ℕ) ∧ 2 * (num % den) ≤ den ∧
        (2 * (num % den) = den → roundDiv num den % 2 = 0) ∨
      (roundDiv num den * den : ℕ) - (num : ℤ) = den - (num % den : ℕ) ∧ den ≤ 2 * (num % den) ∧
        (2 * (num % den) = den → roundDiv num den % 2 = 0) := by
  have hdiv : (den : ℤ) * (num / den : ℕ) + (num % den : ℕ) = num := by
    exact_mod_cast Nat.div_add_mod num den
  unfold roundDiv
  simp only
  split <;> rename_i h
  · refine .inr ⟨?_, by omega, fun _ => by omega⟩
    push_cast at hdiv ⊢
    linarith
  · refine .inl ⟨?_, by omega, fun _ => by omega⟩
    push_cast at hdiv ⊢
    linarith

/-- A rounded quotient is off by half a step at most. -/
lemma roundDiv_error {den : ℕ} (hden : 0 < den) (num : ℕ) :
    2 * |(roundDiv num den * den : ℕ) - (num : ℤ)| ≤ den := by
  have hmod := Nat.mod_lt num hden
  rcases roundDiv_cases num den with ⟨hoff, hle, -⟩ | ⟨hoff, hle, -⟩
  · rw [hoff, abs_neg, abs_of_nonneg (by omega)]
    omega
  · rw [hoff, abs_of_nonneg (by omega)]
    omega

/-- A quotient that is off by half a step is rounded to an even integer. -/
lemma roundDiv_even {num den : ℕ} (hden : 0 < den)
    (h : 2 * |(roundDiv num den * den : ℕ) - (num : ℤ)| = den) : roundDiv num den % 2 = 0 := by
  have hmod := Nat.mod_lt num hden
  rcases roundDiv_cases num den with ⟨hoff, hle, heven⟩ | ⟨hoff, hle, heven⟩
  · rw [hoff, abs_neg, abs_of_nonneg (by omega)] at h
    exact heven (by omega)
  · rw [hoff, abs_of_nonneg (by omega)] at h
    exact heven (by omega)

/-- Another multiple is a step apart from the rounded one. -/
lemma roundDiv_apart {num den k : ℕ} (hne : roundDiv num den ≠ k) :
    (den : ℤ) ≤ |(roundDiv num den * den : ℕ) - (num : ℤ)| + |(k * den : ℕ) - (num : ℤ)| := by
  have hone : (1 : ℤ) ≤ |(roundDiv num den : ℤ) - k| :=
    Int.one_le_abs (sub_ne_zero.2 (by exact_mod_cast hne))
  calc (den : ℤ) ≤ |(roundDiv num den : ℤ) - k| * den :=
        le_mul_of_one_le_left (Int.natCast_nonneg den) hone
    _ = |((roundDiv num den * den : ℕ) : ℤ) - (k * den : ℕ)| := by
        rw [Nat.cast_mul, Nat.cast_mul, ← sub_mul, abs_mul, Nat.abs_cast]
    _ ≤ _ := by
        rw [abs_sub_comm ((k * den : ℕ) : ℤ)]
        exact abs_sub_le _ _ _

/-- Rounding a size prefers one candidate to another: it is nearer, or as near and either the same
or even. -/
def Prefers (n candidate : ℕ) (even : Prop) (other : ℕ) : Prop :=
  |(candidate : ℤ) - n| ≤ |(other : ℤ) - n| ∧
    (|(candidate : ℤ) - n| = |(other : ℤ) - n| → other = candidate ∨ even)

/-- A rounded quotient is preferred to every other multiple. -/
lemma roundDiv_prefers {den : ℕ} (hden : 0 < den) (num k : ℕ) :
    Prefers num (roundDiv num den * den) (roundDiv num den % 2 = 0) (k * den) := by
  rcases eq_or_ne (roundDiv num den) k with rfl | hne
  · exact ⟨le_rfl, fun _ => .inl rfl⟩
  · have herror := roundDiv_error hden num
    have hapart := roundDiv_apart hne
    exact ⟨by omega, fun heq => .inr (roundDiv_even hden (by omega))⟩

/-- A quotient half a step below an even integer is rounded up to it, and no lesser one is. -/
lemma roundDiv_lt_iff {num den k : ℕ} (hden : 0 < den) (hk : k % 2 = 0) :
    roundDiv num den < k ↔ 2 * num + den < 2 * (k * den) := by
  have herror := roundDiv_error hden num
  constructor
  · intro h
    by_contra hge
    have hbelow := neg_abs_le ((roundDiv num den * den : ℕ) - (num : ℤ))
    have hlast : roundDiv num den + 1 = k := by
      refine Nat.le_antisymm h (Nat.le_of_mul_le_mul_right ?_ hden)
      rw [add_mul]
      omega
    have hsize : roundDiv num den * den + den = k * den := by rw [← hlast, add_mul, one_mul]
    have heven : roundDiv num den % 2 = 0 := by
      refine roundDiv_even hden ?_
      rw [abs_of_nonpos (by omega)] at herror ⊢
      omega
    omega
  · intro h
    have habove := le_abs_self ((roundDiv num den * den : ℕ) - (num : ℤ))
    exact Nat.lt_of_mul_lt_mul_right (show roundDiv num den * den < k * den by omega)

lemma le_roundDiv {num den k : ℕ} (hden : 0 < den) (h : k * den ≤ num) : k ≤ roundDiv num den := by
  have hq : k ≤ num / den := (Nat.le_div_iff_mul_le hden).2 h
  unfold roundDiv
  simp only
  split
  · exact Nat.le_succ_of_le hq
  · exact hq

/-! ### Sizes of 53 bits -/

lemma fractionCount_eq : fractionCount = 2 ^ 52 := by norm_num

lemma pow_bits (shift : ℕ) : 2 ^ (53 + shift) = 2 * (fractionCount * 2 ^ shift) := by
  rw [fractionCount_eq, ← pow_add, ← pow_succ']
  congr 1
  omega

/-- From the first size on that has so many excess bits, all sizes of doubles are whole steps. -/
lemma dvd_magnitude {shift : ℕ} {exponent : Fin 2047} {fraction : Fin fractionCount}
    (h : fractionCount * 2 ^ shift ≤ magnitude exponent fraction) :
    2 ^ shift ∣ magnitude exponent fraction := by
  have hf := fraction.isLt
  have hpos : 0 < 2 ^ shift := Nat.two_pow_pos shift
  unfold magnitude at h ⊢
  split at h
  · -- the least sizes stay below the first one that has excess bits
    have hle := Nat.le_mul_of_pos_right fractionCount hpos
    omega
  · rename_i hexp
    rw [if_neg hexp]
    have hshift : shift ≤ exponent.val - 1 := by
      by_contra hlt
      have hstep : 2 * 2 ^ (exponent.val - 1) ≤ 2 ^ shift := by
        rw [← Nat.pow_succ']
        exact Nat.pow_le_pow_right (by omega) (by omega)
      have hlt : (fractionCount + fraction.val) * 2 ^ (exponent.val - 1) <
          fractionCount * 2 ^ shift :=
        calc (fractionCount + fraction.val) * 2 ^ (exponent.val - 1)
            < fractionCount * 2 * 2 ^ (exponent.val - 1) :=
              Nat.mul_lt_mul_of_pos_right (by omega) (Nat.two_pow_pos _)
          _ ≤ fractionCount * 2 ^ shift := by
              rw [Nat.mul_assoc]
              exact Nat.mul_le_mul_left _ hstep
      exact absurd h (Nat.not_le.2 hlt)
    exact Dvd.dvd.mul_left (pow_dvd_pow 2 hshift) _

/-- A size with so many excess bits is at least the first of these. -/
lemma le_of_excessBits_pos {n : ℕ} (h : 0 < excessBits n) :
    fractionCount * 2 ^ excessBits n ≤ n := by
  have hn : n ≠ 0 := by
    rintro rfl
    exact absurd h (by decide)
  unfold excessBits at h ⊢
  rw [fractionCount_eq, ← pow_add, Nat.add_sub_cancel' (by omega)]
  exact Nat.log2_self_le hn

lemma lt_of_excessBits (n : ℕ) : n < 2 * (fractionCount * 2 ^ excessBits n) := by
  have hlog := @Nat.lt_log2_self n
  have hbits : n.log2 + 1 ≤ 53 + excessBits n := by
    unfold excessBits
    omega
  calc n < 2 ^ (n.log2 + 1) := hlog
    _ ≤ 2 ^ (53 + excessBits n) := Nat.pow_le_pow_right (by omega) hbits
    _ = 2 * (fractionCount * 2 ^ excessBits n) := pow_bits _

lemma excessBits_le {n shift : ℕ} (h : n < 2 * (fractionCount * 2 ^ shift)) :
    excessBits n ≤ shift := by
  rcases Nat.eq_zero_or_pos n with rfl | hpos
  · exact Nat.zero_le _
  · have hlog := (Nat.log2_lt hpos.ne').2 (h.trans_eq (pow_bits shift).symm)
    unfold excessBits
    omega

/-- A size taken to 53 significant bits. -/
def rounded (n : ℕ) : ℕ := roundDiv n (2 ^ excessBits n) * 2 ^ excessBits n

/-- A size taken to 53 bits is preferred to the sizes of all doubles. -/
lemma rounded_prefers (n : ℕ) (exponent : Fin 2047) (fraction : Fin fractionCount) :
    Prefers n (rounded n) (roundDiv n (2 ^ excessBits n) % 2 = 0)
      (magnitude exponent fraction) := by
  have hpos := Nat.two_pow_pos (excessBits n)
  rcases Nat.lt_or_ge (magnitude exponent fraction) (fractionCount * 2 ^ excessBits n)
    with hlt | hge
  · rcases Nat.eq_zero_or_pos (excessBits n) with hzero | hbits
    · have h := roundDiv_prefers hpos n (magnitude exponent fraction)
      have hsame : magnitude exponent fraction * 2 ^ excessBits n =
          magnitude exponent fraction := by
        rw [hzero, pow_zero, mul_one]
      rwa [hsame] at h
    · -- the first size with these excess bits lies in between
      have hle := le_of_excessBits_pos hbits
      have h : |(rounded n : ℤ) - n| ≤ |(fractionCount * 2 ^ excessBits n : ℕ) - (n : ℤ)| :=
        (roundDiv_prefers hpos n fractionCount).1
      rw [abs_of_nonpos (by omega : ((fractionCount * 2 ^ excessBits n : ℕ) : ℤ) - n ≤ 0)] at h
      unfold Prefers
      rw [abs_of_nonpos (by omega : (magnitude exponent fraction : ℤ) - n ≤ 0)]
      exact ⟨by omega, fun heq => by omega⟩
  · obtain ⟨k, hk⟩ := dvd_magnitude hge
    rw [hk, mul_comm]
    exact roundDiv_prefers hpos n k

lemma rounded_le_top (n : ℕ) : rounded n ≤ 2 * (fractionCount * 2 ^ excessBits n) := by
  rw [← mul_assoc]
  refine Nat.mul_le_mul_right _ (roundDiv_le (Nat.two_pow_pos _) ?_)
  rw [mul_assoc]
  exact (lt_of_excessBits n).le

/-- A rounded size has 53 significant bits, and the last one is that of the quotient: rounded up to
the next power of two it has one bit more, and this is zero. -/
lemma exists_rounded (n : ℕ) : ∃ q, rounded n = q * 2 ^ excessBits (rounded n) ∧
    (roundDiv n (2 ^ excessBits n) % 2 = 0 → q % 2 = 0) := by
  rcases (rounded_le_top n).lt_or_eq with hlt | heq
  · obtain ⟨k, hk⟩ := Nat.exists_eq_add_of_le (excessBits_le hlt)
    refine ⟨roundDiv n (2 ^ excessBits n) * 2 ^ k, ?_, fun heven => ?_⟩
    · rw [mul_assoc, mul_comm (2 ^ k), ← pow_add, ← hk, rounded]
    · rw [Nat.mul_mod, heven, zero_mul, Nat.zero_mod]
  · have hbits : excessBits (rounded n) = excessBits n + 1 := by
      rw [heq, ← pow_bits, excessBits, Nat.log2_two_pow]
      omega
    refine ⟨fractionCount, ?_, fun _ => rfl⟩
    rw [hbits, heq, pow_succ']
    ring

lemma two_mul_step_le {k l : ℕ} (h : k < l) :
    2 * (fractionCount * 2 ^ k) ≤ fractionCount * 2 ^ l := by
  rw [mul_left_comm, ← pow_succ']
  exact Nat.mul_le_mul_left _ (Nat.pow_le_pow_right (by omega) h)

/-- A size is rounded up to a power of two from half a step below it on. -/
lemma rounded_lt_iff (n shift : ℕ) : rounded n < 2 * (fractionCount * 2 ^ shift) ↔
    2 * n + 2 ^ shift < 4 * (fractionCount * 2 ^ shift) := by
  have hstep : 2 ^ shift ≤ fractionCount * 2 ^ shift := Nat.le_mul_of_pos_left _ (by decide)
  have hpos := Nat.two_pow_pos shift
  rcases lt_trichotomy (excessBits n) shift with hlt | heq | hgt
  · have hn := lt_of_excessBits n
    have hround := rounded_le_top n
    have hdouble := two_mul_step_le hlt
    exact iff_of_true (by omega) (by omega)
  · rw [rounded, heq, ← mul_assoc, Nat.mul_lt_mul_right hpos, roundDiv_lt_iff hpos (by omega),
      mul_assoc]
    omega
  · have hn := le_of_excessBits_pos (Nat.zero_lt_of_lt hgt)
    have hround : fractionCount * 2 ^ excessBits n ≤ rounded n :=
      Nat.mul_le_mul_right _ (le_roundDiv (Nat.two_pow_pos _) hn)
    have hdouble := two_mul_step_le hgt
    omega

/-! ### The double of a rounded size -/

lemma isFinite_ofMagnitude_iff {negative : Bool} {n : ℕ} :
    (ofMagnitude negative n).isFinite = true ↔ n < 2 * (fractionCount * 2 ^ topShift) := by
  unfold ofMagnitude
  split
  · rename_i hlt
    have hle := Nat.le_mul_of_pos_right fractionCount (Nat.two_pow_pos topShift)
    exact iff_of_true rfl (by omega)
  · rename_i hge
    have hn : n ≠ 0 := by
      rintro rfl
      exact hge (by decide)
    rw [← pow_bits, ← Nat.log2_lt hn]
    simp only
    unfold topShift
    split
    · exact iff_of_true rfl (by omega)
    · exact iff_of_false Bool.false_ne_true (by omega)

lemma significand_bounds {n q : ℕ} (hn : fractionCount ≤ n) (hq : n = q * 2 ^ excessBits n) :
    fractionCount ≤ q ∧ q < 2 * fractionCount := by
  have hpos := Nat.two_pow_pos (excessBits n)
  constructor
  · rcases Nat.eq_zero_or_pos (excessBits n) with hzero | hbits
    · rw [hzero, pow_zero, mul_one] at hq
      exact hq ▸ hn
    · exact Nat.le_of_mul_le_mul_right ((le_of_excessBits_pos hbits).trans_eq hq) hpos
  · have h := hq.symm.trans_lt (lt_of_excessBits n)
    rw [← mul_assoc] at h
    exact Nat.lt_of_mul_lt_mul_right h

/-- A size of 53 significant bits becomes a double of this size, whose fraction has the last of
these bits. -/
lemma ofMagnitude_spec {negative : Bool} {n q : ℕ} (hq : n = q * 2 ^ excessBits n)
    (hf : (ofMagnitude negative n).isFinite = true) :
    (ofMagnitude negative n).scaled? = some (signed negative n) ∧
      (q % 2 = 0 → (ofMagnitude negative n).isEven = true) := by
  have hpos := Nat.two_pow_pos (excessBits n)
  unfold ofMagnitude at hf ⊢
  split
  · rename_i hlt
    have hbits : excessBits n = 0 := Nat.eq_zero_of_not_pos fun hbits =>
      absurd (le_of_excessBits_pos hbits)
        (Nat.not_le.2 (hlt.trans_le (Nat.le_mul_of_pos_right _ hpos)))
    rw [hbits, pow_zero, mul_one] at hq
    simp only [scaled?, magnitude, isEven, Fin.ofNat, Nat.mod_eq_of_lt hlt]
    exact ⟨rfl, fun heven => decide_eq_true (hq ▸ heven)⟩
  · rename_i hge
    have hle : 2 ^ 52 ≤ n := by
      rw [← fractionCount_eq]
      exact Nat.not_lt.1 hge
    have hlog : 52 ≤ n.log2 := (Nat.le_log2 (by omega)).2 hle
    have hshift : n.log2 - 51 - 1 = excessBits n := rfl
    have hbounds := significand_bounds (Nat.not_lt.1 hge) hq
    have hdiv : n / 2 ^ excessBits n = q := Nat.div_eq_of_eq_mul_left hpos hq
    have hmod : q % fractionCount = q - fractionCount := by
      rw [Nat.mod_eq_sub_mod hbounds.1, Nat.mod_eq_of_lt (by omega)]
    have hcount : fractionCount % 2 = 0 := rfl
    rw [if_neg hge] at hf
    simp only at hf
    split at hf
    · rename_i hexp
      rw [dif_pos hexp]
      simp only [scaled?, magnitude, isEven, Fin.ofNat, hshift, Nat.pow_eq, hdiv, hmod]
      rw [if_neg (by omega), Nat.add_sub_cancel' hbounds.1, ← hq]
      exact ⟨rfl, fun heven => decide_eq_true (by omega)⟩
    · cases hf

/-! ### Integers -/

lemma ofInt?_eq_some {n : ℤ} {x : Double} : ofInt? n = some x ↔
    x.isFinite = true ∧ ofMagnitude (decide (n < 0)) (rounded (n.natAbs * unit)) = x := by
  have hratio : ofRatio (decide (n < 0)) n.natAbs 1 =
      ofMagnitude (decide (n < 0)) (rounded (n.natAbs * unit)) := by
    simp only [ofRatio, Nat.div_one, one_mul]
    rfl
  unfold ofInt?
  simp only [hratio, Option.ite_none_right_eq_some, Option.some.injEq]
  exact and_congr_left fun h => by rw [h]

lemma signed_natAbs_mul (n : ℤ) (k : ℕ) :
    signed (decide (n < 0)) (n.natAbs * k) = n * k := by
  unfold signed
  split <;> rename_i h
  · have hn := of_decide_eq_true h
    push_cast
    rw [abs_of_neg hn]
    ring
  · have hn := not_lt.1 (of_decide_eq_false (by simpa using h))
    push_cast
    rw [abs_of_nonneg hn]

lemma abs_signed_sub (negative : Bool) (a b : ℕ) :
    |signed negative a - signed negative b| = |(a : ℤ) - b| := by
  cases negative
  · rfl
  · show |(-(a : ℤ)) - -(b : ℤ)| = _
    rw [← neg_sub', abs_neg]

/-- Signs never bring two sizes closer together. -/
lemma abs_sub_le_signed (negative negative' : Bool) (a b : ℕ) :
    |(a : ℤ) - b| ≤ |signed negative a - signed negative' b| := by
  have h := abs_abs_sub_abs_le (signed negative a) (signed negative' b)
  have habs : ∀ negative (c : ℕ), |signed negative c| = c := by
    intro negative c
    cases negative <;> simp [signed]
  rwa [habs, habs] at h

lemma abs_div_unit_sub (t n : ℤ) :
    |(t : ℚ) / unit - n| = (|t - n * unit| : ℤ) / unit := by
  have hn : (n : ℚ) = n * unit / unit := by rw [mul_div_cancel_right₀ _ unit_pos.ne']
  rw [hn, ← sub_div, abs_div, abs_of_pos unit_pos]
  push_cast
  rfl

/-- What rounding prefers among sizes it prefers among signed ones. -/
lemma Prefers.signed {n candidate other : ℕ} {even : Prop} (h : Prefers n candidate even other)
    (hzero : n = 0 → candidate = 0) (negative negative' : Bool) :
    |Double.signed negative candidate - Double.signed negative n| ≤
        |Double.signed negative' other - Double.signed negative n| ∧
      (|Double.signed negative candidate - Double.signed negative n| =
          |Double.signed negative' other - Double.signed negative n| →
        Double.signed negative' other = Double.signed negative candidate ∨ even) := by
  obtain ⟨hle, heq⟩ := h
  have hfar := abs_sub_le_signed negative' negative other n
  rw [abs_signed_sub]
  refine ⟨hle.trans hfar, fun hsame => ?_⟩
  refine (heq (by omega)).imp_left ?_
  rintro rfl
  rcases abs_eq_abs.1 hsame with h | h <;> cases negative <;> cases negative' <;>
    simp only [Double.signed, if_true, if_false, Bool.false_eq_true] at h ⊢ <;> omega

/-- **The double that an integer counts as** is the nearest one. -/
theorem isNearest_of_ofInt? {n : ℤ} {x : Double} (h : ofInt? n = some x) : x.IsNearest n := by
  obtain ⟨hf, rfl⟩ := ofInt?_eq_some.1 h
  obtain ⟨q, hq, heven⟩ := exists_rounded (n.natAbs * unit)
  obtain ⟨hscaled, hlast⟩ := ofMagnitude_spec hq hf
  refine ⟨_, by rw [rational?_eq, hscaled]; rfl, fun y q hq => ?_⟩
  cases y with
  | finite negative exponent fraction =>
    rw [rational?_eq] at hq
    obtain rfl : _ = q := Option.some.inj hq
    obtain ⟨hle, htie⟩ := (rounded_prefers (n.natAbs * unit) exponent fraction).signed
      (fun hzero => by rw [hzero]; rfl) (decide (n < 0)) negative
    rw [signed_natAbs_mul] at hle htie
    rw [abs_div_unit_sub, abs_div_unit_sub, div_le_div_iff_of_pos_right unit_pos, Int.cast_le,
      div_left_inj' unit_pos.ne', Int.cast_inj]
    refine ⟨hle, fun heq => (htie heq).imp (fun hsame => by rw [hsame]) fun hlow => ?_⟩
    exact hlast (heven hlow)
  | _ => cases hq

/-! ### Only one nearest value -/

lemma magnitude_lt_of_exponent_lt {exponent exponent' : Fin 2047} (h : exponent < exponent')
    (fraction fraction' : Fin fractionCount) :
    magnitude exponent fraction < magnitude exponent' fraction' := by
  have hf := fraction.isLt
  have hlt : exponent.val < exponent'.val := h
  have hpow : ∀ k, Nat.pow 2 k = 2 ^ k := fun _ => rfl
  have hnormal : magnitude exponent' fraction' =
      (fractionCount + fraction'.val) * 2 ^ (exponent'.val - 1) := by
    rw [magnitude, if_neg (by omega), hpow]
  have hlow : fractionCount * 2 ^ (exponent'.val - 1) ≤ magnitude exponent' fraction' :=
    hnormal ▸ Nat.mul_le_mul_right _ (Nat.le_add_right _ _)
  refine lt_of_lt_of_le ?_ hlow
  unfold magnitude
  split
  · exact hf.trans_le (Nat.le_mul_of_pos_right _ (Nat.two_pow_pos _))
  · have hstep : 2 * 2 ^ (exponent.val - 1) ≤ 2 ^ (exponent'.val - 1) := by
      rw [← pow_succ']
      exact Nat.pow_le_pow_right (by omega) (by omega)
    calc (fractionCount + fraction.val) * Nat.pow 2 (exponent.val - 1)
        < 2 * fractionCount * 2 ^ (exponent.val - 1) :=
          Nat.mul_lt_mul_of_pos_right (by omega) (Nat.two_pow_pos _)
      _ = fractionCount * (2 * 2 ^ (exponent.val - 1)) := by ring
      _ ≤ fractionCount * 2 ^ (exponent'.val - 1) := Nat.mul_le_mul_left _ hstep

lemma magnitude_lt_iff {exponent : Fin 2047} {fraction fraction' : Fin fractionCount} :
    magnitude exponent fraction < magnitude exponent fraction' ↔
      fraction.val < fraction'.val := by
  unfold magnitude
  split
  · rfl
  · exact (Nat.mul_lt_mul_right (Nat.two_pow_pos _)).trans (Nat.add_lt_add_iff_left)

/-- Two sizes with even fractions are no neighbours. -/
lemma exists_magnitude_between {exponent exponent' : Fin 2047}
    {fraction fraction' : Fin fractionCount} (heven : fraction.val % 2 = 0)
    (heven' : fraction'.val % 2 = 0)
    (h : magnitude exponent fraction < magnitude exponent' fraction') :
    ∃ next, magnitude exponent fraction < magnitude exponent next ∧
      magnitude exponent next < magnitude exponent' fraction' := by
  have hf := fraction.isLt
  have hcount : fractionCount % 2 = 0 := rfl
  refine ⟨⟨fraction.val + 1, by omega⟩, magnitude_lt_iff.2 (Nat.lt_succ_self _), ?_⟩
  rcases Nat.lt_trichotomy exponent.val exponent'.val with hlt | heq | hgt
  · exact magnitude_lt_of_exponent_lt hlt _ _
  · obtain rfl := Fin.ext heq
    rw [magnitude_lt_iff] at h ⊢
    show fraction.val + 1 < fraction'.val
    omega
  · exact absurd (magnitude_lt_of_exponent_lt hgt fraction' fraction) h.asymm

lemma signed_of_nonneg {negative : Bool} {n : ℕ} (h : 0 ≤ signed negative n) :
    signed negative n = n := by
  cases negative <;> simp only [signed, if_true, if_false, Bool.false_eq_true] at h ⊢
  omega

lemma signed_of_nonpos {negative : Bool} {n : ℕ} (h : signed negative n ≤ 0) :
    signed negative n = -n := by
  cases negative <;> simp only [signed, if_true, if_false, Bool.false_eq_true] at h ⊢
  omega

/-- Nor are two doubles with even fractions. -/
lemma exists_scaled_between {x y : Double} {s t : ℤ} (hx : x.scaled? = some s)
    (hy : y.scaled? = some t) (hxe : x.isEven = true) (hye : y.isEven = true) (h : s < t) :
    ∃ z u, scaled? z = some u ∧ s < u ∧ u < t := by
  cases x with
  | finite negative exponent fraction =>
    cases y with
    | finite negative' exponent' fraction' =>
      simp only [isEven, decide_eq_true_eq] at hxe hye
      obtain rfl : signed negative (magnitude exponent fraction) = s := Option.some.inj hx
      obtain rfl : signed negative' (magnitude exponent' fraction') = t := Option.some.inj hy
      rcases le_or_gt 0 (signed negative (magnitude exponent fraction)) with hpos | hneg
      · have hs := signed_of_nonneg hpos
        have ht := signed_of_nonneg (hpos.trans h.le)
        have hlt : magnitude exponent fraction < magnitude exponent' fraction' := by omega
        obtain ⟨next, hlow, hhigh⟩ := exists_magnitude_between hxe hye hlt
        exact ⟨.finite false exponent next, magnitude exponent next, rfl, by omega, by omega⟩
      · rcases lt_or_ge 0 (signed negative' (magnitude exponent' fraction')) with hpos' | hneg'
        · exact ⟨.finite false 0 0, 0, rfl, hneg, hpos'⟩
        · -- below zero the order of the sizes is the other way round
          have hs := signed_of_nonpos hneg.le
          have ht := signed_of_nonpos hneg'
          have hlt : magnitude exponent' fraction' < magnitude exponent fraction := by omega
          obtain ⟨next, hlow, hhigh⟩ := exists_magnitude_between hye hxe hlt
          exact ⟨.finite true exponent' next, -magnitude exponent' next, rfl, by omega, by omega⟩
    | _ => cases hy
  | _ => cases hx

namespace IsNearest

variable {x : Double} {n : ℤ} (h : x.IsNearest n)

include h

/-- An integer that a double equals counts as a double that equals it. -/
lemma rational?_eq {y : Double} (hy : y.rational? = some (n : ℚ)) :
    x.rational? = some (n : ℚ) := by
  obtain ⟨p, hp, hnear⟩ := h
  have hle := (hnear y n hy).1
  rw [sub_self, abs_zero, abs_nonpos_iff, sub_eq_zero] at hle
  rw [hp, hle]

/-- Only zero counts as zero: one and minus one are doubles, and one of them is nearer to any other
integer. -/
lemma ne_zero (hn : n ≠ 0) : x.rational? ≠ some 0 := by
  intro hzero
  obtain ⟨p, hp, hnear⟩ := h
  obtain rfl : p = 0 := Option.some.inj (hp.symm.trans hzero)
  have hone : ∀ negative, rational? (.finite negative ⟨1023, by decide⟩ ⟨0, by decide⟩) =
      some (if negative then -1 else 1) := by
    intro negative
    simp [rational?, size]
  rcases lt_or_gt_of_ne hn with hneg | hpos
  · have hle := (hnear _ _ (hone true)).1
    have hn' : (n : ℚ) ≤ -1 := by exact_mod_cast Int.le_sub_one_of_lt hneg
    rw [if_pos rfl, abs_of_nonneg (by linarith), abs_of_nonneg (by linarith)] at hle
    linarith
  · have hle := (hnear _ _ (hone false)).1
    have hn' : (1 : ℚ) ≤ n := by exact_mod_cast hpos
    rw [if_neg Bool.false_ne_true, abs_of_nonpos (by linarith), abs_of_nonpos (by linarith)] at hle
    linarith

/-- Of two values as near, one has an odd fraction, or there is another one between them. -/
lemma not_lt_of_isNearest {y : Double} {p q : ℚ} (hy : y.IsNearest n) (hp : x.rational? = some p)
    (hq : y.rational? = some q) : ¬p < q := by
  intro hlt
  obtain ⟨p', hp', hnear⟩ := h
  obtain ⟨q', hq', hnear'⟩ := hy
  cases hp.symm.trans hp'
  cases hq.symm.trans hq'
  have hsame : |p - n| = |q - n| := le_antisymm (hnear y q hq).1 (hnear' x p hp).1
  have hxe := ((hnear y q hq).2 hsame).resolve_left hlt.ne'
  have hye := ((hnear' x p hp).2 hsame.symm).resolve_left hlt.ne
  obtain ⟨s, hs, rfl⟩ := Option.map_eq_some_iff.1 ((Double.rational?_eq x).symm.trans hp)
  obtain ⟨t, ht, rfl⟩ := Option.map_eq_some_iff.1 ((Double.rational?_eq y).symm.trans hq)
  obtain ⟨z, u, hu, hsu, hut⟩ := exists_scaled_between hs ht hxe hye
    (by exact_mod_cast (div_lt_div_iff_of_pos_right unit_pos).1 hlt)
  have hz : z.rational? = some ((u : ℚ) / unit) := by rw [Double.rational?_eq, hu]; rfl
  have hlow : (s : ℚ) / unit < u / unit :=
    div_lt_div_of_pos_right (by exact_mod_cast hsu) unit_pos
  have hhigh : (u : ℚ) / unit < t / unit :=
    div_lt_div_of_pos_right (by exact_mod_cast hut) unit_pos
  -- the two values lie around the integer, hence the one between is nearer
  rcases abs_eq_abs.1 hsame with heq | heq
  · linarith
  · have hle := (hnear z _ hz).1
    rw [abs_of_nonpos (by linarith : (s : ℚ) / unit - n ≤ 0), le_abs] at hle
    rcases hle with hle | hle <;> linarith

/-- **The nearest double** is one value. -/
theorem unique {y : Double} (hy : y.IsNearest n) : x.rational? = y.rational? := by
  obtain ⟨p, hp, -⟩ := id h
  obtain ⟨q, hq, -⟩ := id hy
  rw [hp, hq]
  rcases lt_trichotomy p q with hlt | heq | hgt
  · exact absurd hlt (h.not_lt_of_isNearest hy hp hq)
  · rw [heq]
  · exact absurd hgt (hy.not_lt_of_isNearest h hq hp)

end IsNearest

lemma unit_eq_two_pow : unit = 2 ^ unitBits := by
  have hpow : ∀ k, Nat.pow 2 k = 2 ^ k := fun _ => rfl
  unfold unit
  exact hpow unitBits

lemma two_mul_add_lt_iff {a k b shift top : ℕ} (h : shift = k + (b + 1)) (htop : top = 54 + k) :
    2 * (a * 2 ^ b) + 2 ^ shift < 4 * (fractionCount * 2 ^ shift) ↔ a + 2 ^ k < 2 ^ top := by
  have hleft : 2 * (a * 2 ^ b) + 2 ^ shift = (a + 2 ^ k) * 2 ^ (b + 1) := by
    rw [h, pow_add, add_mul, pow_succ]
    ring
  have hright : 4 * (fractionCount * 2 ^ shift) = 2 ^ top * 2 ^ (b + 1) := by
    rw [h, htop, pow_add, pow_add 2 54 k, fractionCount_eq]
    ring
  rw [hleft, hright]
  exact Nat.mul_lt_mul_right (Nat.two_pow_pos _)

/-- **An integer counts as a double** if and only if it is nearer to the largest double than to two
to the power of 1024. -/
theorem isSome_ofInt?_iff {n : ℤ} :
    (ofInt? n).isSome = true ↔ n.natAbs + 2 ^ 970 < 2 ^ 1024 := by
  have hfinite : (ofInt? n).isSome = true ↔
      rounded (n.natAbs * unit) < 2 * (fractionCount * 2 ^ topShift) := by
    rw [Option.isSome_iff_exists, ← @isFinite_ofMagnitude_iff (decide (n < 0))]
    simp [ofInt?_eq_some]
  rw [hfinite, rounded_lt_iff]
  have hbits : topShift = 970 + (unitBits + 1) := by
    unfold topShift
    rfl
  rw [unit_eq_two_pow]
  exact two_mul_add_lt_iff hbits rfl

end Double

namespace Number

lemma toDouble?_int (n : ℤ) : toDouble? (.int n) = Double.ofInt? n := by rw [toDouble?]

lemma toDouble?_double (x : Double) : toDouble? (.double x) = some x := by rw [toDouble?]

/-- An integer that counts as no double. -/
@[irreducible] def beyondDoubles : ℤ := (2 ^ 1024 : ℕ)

lemma not_lt_beyondDoubles : ¬beyondDoubles.natAbs + 2 ^ 970 < 2 ^ 1024 := by
  rw [beyondDoubles, Int.natAbs_natCast, not_lt]
  exact Nat.le_add_right _ _

end Number

end JsonSchema
