import JsonSchema.Proofs.Checks
import Mathlib.Algebra.Group.Nat.Defs

/-!
Numbers by their places on the number line, and integers within the range of doubles.

Comparisons see nothing of a number but its place. Main statement: an integer that is no larger
than the largest double is near to a double, and is written with fewer digits than the limit.
-/

namespace JsonSchema

lemma Double.unit_ne_zero : Double.unit ≠ 0 := by
  have hpow : ∀ k, Nat.pow 2 k ≠ 0 := fun k => Nat.ne_of_gt (Nat.two_pow_pos k)
  unfold Double.unit
  exact hpow Double.unitBits

/-! ### The same place -/

namespace Number

lemma isNaN_eq (x : Number) : x.isNaN = x.rank?.isNone := by
  cases x with
  | int n => rfl
  | double d => cases d <;> rfl

lemma eq_iff {x y : Number} :
    Number.eq x y = true ↔ x.rank? = y.rank? ∧ x.isNaN = false := by
  unfold Number.eq compareBy
  rw [isNaN_eq]
  cases x.rank? with
  | none => simp
  | some r =>
    cases y.rank? with
    | none => simp
    | some s => simp

/-- Integral numbers are the multiples of one, and the infinities. -/
lemma isIntegral_eq (x : Number) : x.isIntegral = x.rank?.any fun
    | .finite scaled => scaled % Double.unit = 0
    | _ => true := by
  cases x with
  | int n => exact (decide_eq_true (Int.mul_emod_left n Double.unit)).symm
  | double d =>
    cases d with
    | nan => rfl
    | infinite negative => cases negative <;> rfl
    | finite negative exponent fraction =>
      show (if Double.signed negative (Double.magnitude exponent fraction) % Double.unit = 0
        then some _ else none : Option Int).isSome = decide _
      split
      · exact (decide_eq_true ‹_›).symm
      · exact (decide_eq_false ‹_›).symm

lemma isIntegral_congr {x y : Number} (h : x.rank? = y.rank?) : x.isIntegral = y.isIntegral := by
  rw [isIntegral_eq, isIntegral_eq, h]

lemma compareBy_congr {rel : Rank → Rank → Bool} {x y x' y' : Number} (hx : x.rank? = x'.rank?)
    (hy : y.rank? = y'.rank?) : compareBy rel x y = compareBy rel x' y' := by
  unfold compareBy
  rw [hx, hy]

lemma isZero_congr {x y : Number} (h : x.rank? = y.rank?) : x.isZero = y.isZero :=
  compareBy_congr h rfl

lemma int_inj {n m : Int} (h : rank? (.int n) = rank? (.int m)) : n = m := by
  have hunit : (Double.unit : Int) ≠ 0 := Int.natCast_ne_zero.2 Double.unit_ne_zero
  simp only [rank?, Option.some.injEq, Rank.finite.injEq] at h
  exact Int.eq_of_mul_eq_mul_right hunit h

end Number

/-! ### Integers within the range of doubles -/

namespace Double

/-- How far the fraction of the largest doubles is shifted. -/
@[irreducible] def topShift : Nat := 2045

/-- The size of the largest finite double, in least positive doubles. -/
def largestMagnitude : Nat := (2 * fractionCount - 1) * 2 ^ topShift

def largest : Double := .finite false ⟨2046, by decide⟩ ⟨fractionCount - 1, by decide⟩

lemma magnitude_le (exponent : Fin 2047) (fraction : Fin fractionCount) :
    magnitude exponent fraction ≤ largestMagnitude := by
  have hf := fraction.isLt
  have he := exponent.isLt
  have hpos : 0 < 2 ^ topShift := Nat.two_pow_pos _
  unfold magnitude largestMagnitude
  split
  · calc fraction.val ≤ 2 * fractionCount - 1 := by omega
      _ ≤ (2 * fractionCount - 1) * 2 ^ topShift := Nat.le_mul_of_pos_right _ hpos
  · have hshift : exponent.val - 1 ≤ topShift := by
      unfold topShift
      omega
    exact Nat.mul_le_mul (by omega) (Nat.pow_le_pow_right (by omega) hshift)

lemma magnitude_top {exponent : Fin 2047} {fraction : Fin fractionCount}
    (he : exponent.val - 1 = topShift) (hne : exponent.val ≠ 0)
    (hf : fractionCount + fraction.val = 2 * fractionCount - 1) :
    magnitude exponent fraction = largestMagnitude := by
  rw [magnitude, if_neg hne, he, hf]
  rfl

lemma largestMagnitude_lt : largestMagnitude < 2 ^ (53 + topShift) := by
  rw [Nat.pow_add]
  exact Nat.mul_lt_mul_of_pos_right (by decide) (Nat.two_pow_pos _)

/-- Rounding does not pass a whole number. -/
lemma roundDiv_le {num den k : Nat} (hden : 0 < den) (h : num ≤ k * den) :
    roundDiv num den ≤ k := by
  have hq : num / den ≤ k := Nat.div_le_of_le_mul (by rwa [Nat.mul_comm])
  have hdiv := Nat.div_add_mod num den
  unfold roundDiv
  simp only
  split
  · rcases Nat.lt_or_ge (num / den) k with hlt | hge
    · omega
    · have hk : num / den = k := by omega
      have hzero : num % den = 0 := by
        rw [hk, Nat.mul_comm] at hdiv
        omega
      omega
  · exact hq

lemma isFinite_ofMagnitude (negative : Bool) {n : Nat} (h : n ≤ largestMagnitude) :
    (ofMagnitude negative n).isFinite = true := by
  unfold ofMagnitude
  split
  · rfl
  · rename_i hn
    have hpos : n ≠ 0 := by
      rintro rfl
      exact hn (by decide)
    have hlog := (Nat.log2_lt hpos).2 (Nat.lt_of_le_of_lt h largestMagnitude_lt)
    have hexp : n.log2 - 51 < 2047 := by
      unfold topShift at hlog
      omega
    simp only [hexp, dif_pos]
    rfl

/-- Taking a size to 53 significant bits does not lead past the largest double. -/
lemma rounded_le {n : Nat} (h : n ≤ largestMagnitude) :
    roundDiv n (2 ^ excessBits n) * 2 ^ excessBits n ≤ largestMagnitude := by
  have hshift : excessBits n ≤ topShift := by
    rcases Nat.eq_zero_or_pos n with rfl | hpos
    · exact Nat.zero_le _
    · have hlog := (Nat.log2_lt (Nat.ne_of_gt hpos)).2 (Nat.lt_of_le_of_lt h largestMagnitude_lt)
      unfold excessBits
      omega
  have hsplit : largestMagnitude =
      (2 * fractionCount - 1) * 2 ^ (topShift - excessBits n) * 2 ^ excessBits n := by
    rw [Nat.mul_assoc, ← Nat.pow_add, Nat.sub_add_cancel hshift]
    rfl
  rw [hsplit] at h ⊢
  exact Nat.mul_le_mul_right _ (roundDiv_le (Nat.two_pow_pos _) h)

lemma exists_ofInt? {n : Int} (h : n.natAbs * unit ≤ largestMagnitude) :
    ∃ x, ofInt? n = some x := by
  have hround : roundDiv (n.natAbs * unit) (1 * Nat.pow 2 (excessBits (n.natAbs * unit / 1))) *
      Nat.pow 2 (excessBits (n.natAbs * unit / 1)) ≤ largestMagnitude := by
    rw [Nat.div_one, Nat.one_mul]
    exact rounded_le h
  refine ⟨ofRatio (decide (n < 0)) n.natAbs 1, ?_⟩
  unfold ofInt?
  simp only
  rw [if_pos]
  exact isFinite_ofMagnitude _ hround

end Double

namespace Number

/-- Whether an integer is no larger than the largest double; doubles are no integers. -/
def isInRange : Number → Bool
  | int n => Number.le (.int n.natAbs) (.double Double.largest)
  | double _ => true

lemma rank?_largest :
    rank? (.double Double.largest) = some (.finite Double.largestMagnitude) := by
  have hmag : Double.magnitude ⟨2046, by decide⟩ ⟨Double.fractionCount - 1, by decide⟩ =
      Double.largestMagnitude := by
    refine Double.magnitude_top ?_ (by decide) (by decide)
    unfold Double.topShift
    rfl
  rw [Double.largest, rank?, hmag]
  rfl

lemma isInRange_iff {n : Int} :
    isInRange (.int n) = true ↔ n.natAbs * Double.unit ≤ Double.largestMagnitude := by
  unfold isInRange Number.le compareBy
  rw [rank?_largest]
  show decide ((n.natAbs : Int) * (Double.unit : Int) ≤ (Double.largestMagnitude : Int)) = true ↔ _
  rw [decide_eq_true_iff]
  exact_mod_cast Iff.rfl

lemma lt_ten_pow {n k bits limit : Nat} (h : n * Nat.pow 2 bits < 2 ^ (k + bits))
    (hk : k ≤ limit) : n < Nat.pow 10 limit := by
  rw [Nat.pow_add] at h
  calc n < 2 ^ k := Nat.lt_of_mul_lt_mul_right h
    _ ≤ 10 ^ k := Nat.pow_le_pow_left (by decide) k
    _ ≤ 10 ^ limit := Nat.pow_le_pow_right (by decide) hk

lemma withinDigitLimit_of_isInRange {n : Int} (h : isInRange (.int n) = true) :
    withinDigitLimit n = true := by
  rw [isInRange_iff] at h
  have hbits : 53 + Double.topShift = 1024 + Double.unitBits := by
    unfold Double.topShift Double.unitBits
    rfl
  have hlt := Nat.lt_of_le_of_lt h Double.largestMagnitude_lt
  rw [hbits] at hlt
  unfold Double.unit at hlt
  exact decide_eq_true (@lt_ten_pow n.natAbs 1024 Double.unitBits digitLimit hlt (by decide))

/-- An integer that equals a double is no larger than the largest one. -/
lemma isInRange_of_rank {n : Int} {x : Double}
    (h : rank? (.int n) = rank? (.double x)) : isInRange (.int n) = true := by
  rw [isInRange_iff]
  cases x with
  | nan => cases h
  | infinite negative => cases negative <;> cases h
  | finite negative exponent fraction =>
    have hle := Double.magnitude_le exponent fraction
    have hn : n * (Double.unit : Int) =
        Double.signed negative (Double.magnitude exponent fraction) :=
      Rank.finite.inj (Option.some.inj h)
    have habs : n.natAbs * Double.unit = Double.magnitude exponent fraction := by
      have := congrArg Int.natAbs hn
      rw [Int.natAbs_mul, Int.natAbs_natCast] at this
      rw [this]
      cases negative <;> simp [Double.signed]
    omega

/-- Numbers at the same place are the same integer, or in the range of doubles both. -/
lemma eq_or_isInRange {x y : Number} (h : x.rank? = y.rank?) :
    x = y ∨ x.isInRange = true ∧ y.isInRange = true := by
  cases x with
  | int n =>
    cases y with
    | int m => exact .inl (by rw [int_inj h])
    | double d => exact .inr ⟨isInRange_of_rank h, rfl⟩
  | double c =>
    cases y with
    | int m => exact .inr ⟨rfl, isInRange_of_rank h.symm⟩
    | double d => exact .inr ⟨rfl, rfl⟩

end Number

/-! ### Values that are numbers -/

namespace Value

lemma isWritable_of_isInRange {x : Number} (h : x.isInRange = true) :
    (number x).isWritable = true := by
  cases x with
  | int n => simpa [isWritable] using Number.withinDigitLimit_of_isInRange h
  | double d => simp [isWritable]

lemma isFalsy_of_toDouble? {x : Number} {d : Double} (h : x.toDouble? = some d)
    (hn : d.isNaN = x.isNaN) : (number x).isFalsy = .ok (x.isZero || x.isNaN) := by
  simp only [isFalsy, h, hn]
  cases x.isZero <;> rfl

/-- A number within the range of doubles is falsy or not. -/
lemma isFalsy_of_isInRange {x : Number} (h : x.isInRange = true) :
    (number x).isFalsy = .ok (x.isZero || x.isNaN) := by
  cases x with
  | double d => exact isFalsy_of_toDouble? rfl rfl
  | int n =>
    obtain ⟨d, hd⟩ := Double.exists_ofInt? (Number.isInRange_iff.1 h)
    exact isFalsy_of_toDouble? hd (Double.isNaN_ofInt? hd)

end Value

end JsonSchema
