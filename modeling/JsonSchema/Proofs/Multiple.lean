import JsonSchema.Proofs.Insertion
import JsonSchema.Proofs.Magnitude
import JsonSchema.Proofs.Rounding

/-!
Multiples of a number.

Two integers are divided as they are, and so are two doubles. Beside a double, an integer counts as
the double nearest to it. Main statement: a divisor is told exactly if there is no whole quotient of
the numbers that are divided. This is the question for exact values wherever no integer is rounded,
that is between integers of any size, and where every integer equals the double that it counts as.
-/

namespace JsonSchema

attribute [local irreducible] Double.unit

namespace Number

/-- Whether a number is a whole multiple of another one, by exact values. -/
def IsMultiple (x d : Number) : Prop :=
  ∃ p q, x.rational? = some p ∧ d.rational? = some q ∧ ∃ k : ℤ, p = k * q

/-- The doubles that a number counts as beside a double: a double as itself, an integer as the
nearest one, unless two to the power of 1024 is as near. -/
inductive CountsAs : Number → Double → Prop where
  | double (x : Double) : CountsAs (.double x) x
  | int {n : ℤ} {a : Double} (hrange : n.natAbs + 2 ^ 970 < 2 ^ 1024) (hnear : a.IsNearest n) :
    CountsAs (.int n) a

/-- The numbers that are divided where a multiple is asked for: two integers themselves, else the
doubles that both count as. -/
inductive Divided (x d : Number) : Number → Number → Prop where
  | ints {n m : Int} (hx : x = .int n) (hd : d = .int m) : Divided x d x d
  | doubles {a b : Double} (h : ∀ n m, x = .int n → d ≠ .int m) (ha : x.CountsAs a)
    (hb : d.CountsAs b) : Divided x d (.double a) (.double b)

/-- Whether the numbers that are divided have a whole quotient. -/
def CountsAsMultiple (x d : Number) : Prop := ∃ y e, Divided x d y e ∧ y.IsMultiple e

/-- A number that a double equals. -/
def IsDouble (x : Number) : Prop := ∃ y : Double, y.rational? = x.rational?

/-! ### Quotients -/

lemma isMultiple_iff {x d : Number} {s t : ℤ} (hx : x.rank? = some (.finite s))
    (hd : d.rank? = some (.finite t)) : x.IsMultiple d ↔ t ∣ s := by
  have hunit := Double.unit_pos.ne'
  constructor
  · rintro ⟨p, q, hp, hq, k, hk⟩
    obtain ⟨s', hs, rfl⟩ := rational?_eq_some.1 hp
    obtain ⟨t', ht, rfl⟩ := rational?_eq_some.1 hq
    cases hx.symm.trans hs
    cases hd.symm.trans ht
    rw [← mul_div_assoc, div_left_inj' hunit] at hk
    exact ⟨k, by rw [mul_comm]; exact_mod_cast hk⟩
  · rintro ⟨k, rfl⟩
    refine ⟨_, _, rational?_eq_some.2 ⟨_, hx, rfl⟩, rational?_eq_some.2 ⟨_, hd, rfl⟩, k, ?_⟩
    push_cast
    ring

lemma isMultiple_int_iff {n m : ℤ} : IsMultiple (.int n) (.int m) ↔ m ∣ n := by
  rw [isMultiple_iff rfl rfl]
  exact mul_dvd_mul_iff_right (Int.natCast_ne_zero.2 Double.unit_ne_zero)

lemma dividesDouble_iff {x y : Double} {s t : ℤ} (hx : x.scaled? = some s) (hy : y.scaled? = some t)
    (ht : t ≠ 0) : (x.isFinite && dividesDouble y x) = true ↔
      IsMultiple (.double x) (.double y) := by
  cases x with
  | finite negative exponent fraction =>
    cases y with
    | finite negative' exponent' fraction' =>
      cases hx
      cases hy
      rw [isMultiple_iff rfl rfl]
      rw [Int.dvd_iff_emod_eq_zero]
      simp only [dividesDouble, Double.isFinite, Double.scaled?, Bool.true_and,
        decide_eq_true_iff]
      exact and_iff_right ht
    | _ => cases hy
  | _ => cases hx

/-- A finite double has a place that is zero only if its value is. -/
lemma exists_scaled {x : Double} {p : ℚ} (h : x.rational? = some p) :
    ∃ s : ℤ, x.scaled? = some s ∧ (p ≠ 0 → s ≠ 0) := by
  rw [Double.rational?_eq, Option.map_eq_some_iff] at h
  obtain ⟨s, hs, rfl⟩ := h
  refine ⟨s, hs, fun hp hzero => hp ?_⟩
  rw [hzero, Int.cast_zero, zero_div]

/-- Two doubles, of which the second is not zero, are divided by exact values. -/
lemma dividesDouble_iff_of_rational {x y : Double} {p q : ℚ} (hx : x.rational? = some p)
    (hy : y.rational? = some q) (hq : q ≠ 0) : (x.isFinite && dividesDouble y x) = true ↔
      IsMultiple (.double x) (.double y) := by
  obtain ⟨s, hs, -⟩ := exists_scaled hx
  obtain ⟨t, ht, hne⟩ := exists_scaled hy
  exact dividesDouble_iff hs ht (hne hq)

/-! ### Numbers beside a double -/

lemma countsAs_of_toDouble? {x : Number} {a : Double} (h : x.toDouble? = some a) :
    x.CountsAs a := by
  cases x with
  | int n =>
    rw [toDouble?_int] at h
    exact .int (Double.isSome_ofInt?_iff.1 (by rw [h]; rfl)) (Double.isNearest_of_ofInt? h)
  | double x =>
    obtain rfl : x = a := Option.some.inj ((toDouble?_double x).symm.trans h)
    exact .double x

namespace CountsAs

variable {x : Number} {a : Double} (h : x.CountsAs a)

include h

/-- What a number counts as is what it is converted to, up to the sign of zero. -/
lemma exists_toDouble? : ∃ a', x.toDouble? = some a' ∧ a'.rational? = a.rational? := by
  cases h with
  | double => exact ⟨a, toDouble?_double a, rfl⟩
  | @int n _ hrange hnear =>
    obtain ⟨a', ha'⟩ := Option.isSome_iff_exists.1 (Double.isSome_ofInt?_iff.2 hrange)
    exact ⟨a', (toDouble?_int n).trans ha', (Double.isNearest_of_ofInt? ha').unique hnear⟩

/-- What a finite number counts as is finite, and zero only if the number is. -/
lemma exists_rational {p : ℚ} (hx : x.rational? = some p) :
    ∃ p', a.rational? = some p' ∧ (p ≠ 0 → p' ≠ 0) := by
  cases h with
  | double => exact ⟨p, hx, id⟩
  | @int n _ hrange hnear =>
    obtain rfl : (n : ℚ) = p := Option.some.inj hx
    obtain ⟨p', hp, -⟩ := id hnear
    refine ⟨p', hp, fun hn hzero => hnear.ne_zero (by exact_mod_cast hn) ?_⟩
    rw [hp, hzero]

end CountsAs

lemma isMultiple_congr {x d y e : Number} (hx : y.rational? = x.rational?)
    (hd : e.rational? = d.rational?) : y.IsMultiple e ↔ x.IsMultiple d := by
  unfold IsMultiple
  rw [hx, hd]

/-- Numbers that are not both integers are divided as doubles. -/
lemma isMultipleOf_eq {x d : Number} (h : ∀ n m, x = .int n → d ≠ .int m) : x.isMultipleOf d =
    x.toDouble?.any fun a => d.toDouble?.any fun b => a.isFinite && dividesDouble b a := by
  unfold isMultipleOf
  split
  · exact absurd rfl (h _ _ rfl)
  · generalize x.toDouble? = a
    generalize d.toDouble? = b
    cases a <;> cases b <;> rfl

/-- **What counts as a multiple**: where the numbers that are divided have a whole quotient. -/
theorem isMultipleOf_iff {x d : Number} {p q : ℚ} (hx : x.rational? = some p)
    (hd : d.rational? = some q) (hq : q ≠ 0) : x.isMultipleOf d = true ↔ x.CountsAsMultiple d := by
  by_cases hints : ∃ n m, x = .int n ∧ d = .int m
  · obtain ⟨n, m, rfl, rfl⟩ := hints
    have hmultiple : isMultipleOf (.int n) (.int m) = true ↔ IsMultiple (.int n) (.int m) := by
      rw [isMultiple_int_iff, Int.dvd_iff_emod_eq_zero]
      simp only [isMultipleOf, decide_eq_true_iff]
    rw [hmultiple]
    constructor
    · exact fun h => ⟨_, _, .ints rfl rfl, h⟩
    · rintro ⟨y, e, hdivided, h⟩
      cases hdivided with
      | ints => exact h
      | doubles hne => exact absurd rfl (hne n m rfl)
  · have hne : ∀ n m, x = .int n → d ≠ .int m := fun n m hn hm => hints ⟨n, m, hn, hm⟩
    rw [isMultipleOf_eq hne, Option.any_eq_true]
    constructor
    · rintro ⟨a, ha, h⟩
      obtain ⟨b, hb, h⟩ := (Option.any_eq_true _ _).1 h
      have hx' := countsAs_of_toDouble? ha
      have hd' := countsAs_of_toDouble? hb
      obtain ⟨p', hp, -⟩ := hx'.exists_rational hx
      obtain ⟨q', hq', hzero⟩ := hd'.exists_rational hd
      exact ⟨_, _, .doubles hne hx' hd', (dividesDouble_iff_of_rational hp hq' (hzero hq)).1 h⟩
    · rintro ⟨y, e, hdivided, h⟩
      cases hdivided with
      | ints hn hm => exact absurd hm (hne _ _ hn)
      | doubles _ ha hb =>
        obtain ⟨p', hp, -⟩ := ha.exists_rational hx
        obtain ⟨q', hq', hzero⟩ := hb.exists_rational hd
        obtain ⟨a, hxa, hpa⟩ := ha.exists_toDouble?
        obtain ⟨b, hdb, hqb⟩ := hb.exists_toDouble?
        refine ⟨a, hxa, (Option.any_eq_true _ _).2 ⟨b, hdb, ?_⟩⟩
        rw [dividesDouble_iff_of_rational (hpa.trans hp) (hqb.trans hq') (hzero hq)]
        refine (isMultiple_congr ?_ ?_).2 h
        · exact hpa
        · exact hqb

/-! ### Without rounding -/

/-- An integer that a double equals has the place of the double. -/
lemma rank?_of_rational? {n : ℤ} {y : Double} (h : y.rational? = some (n : ℚ)) :
    rank? (.int n) = rank? (.double y) := by
  obtain ⟨s, hs, hn⟩ := rational?_eq_some.1 (show rational? (.double y) = some (n : ℚ) from h)
  rw [div_eq_iff Double.unit_pos.ne'] at hn
  obtain rfl : s = n * Double.unit := by exact_mod_cast hn
  exact hs.symm

lemma isDouble_double (x : Double) : IsDouble (.double x) := ⟨x, rfl⟩

namespace IsDouble

variable {x : Number} (h : x.IsDouble)

include h

lemma exists_countsAs : ∃ a, x.CountsAs a := by
  obtain ⟨y, hy⟩ := h
  cases x with
  | int n =>
    have hrange := isInRange_iff.1 (isInRange_of_rank (rank?_of_rational? hy))
    obtain ⟨a, ha⟩ := Double.exists_ofInt? hrange
    exact ⟨a, countsAs_of_toDouble? ((toDouble?_int n).trans ha)⟩
  | double x => exact ⟨x, .double x⟩

/-- A number that a double equals counts as a double that equals it. -/
lemma rational?_eq {a : Double} (ha : x.CountsAs a) : a.rational? = x.rational? := by
  obtain ⟨y, hy⟩ := h
  cases ha with
  | double => rfl
  | int _ hnear => exact hnear.rational?_eq hy

end IsDouble

/-- Two integers, and two numbers that doubles equal, are divided by their exact values. -/
lemma countsAsMultiple_iff {x d : Number}
    (h : (∃ n m, x = .int n ∧ d = .int m) ∨ x.IsDouble ∧ d.IsDouble) :
    x.CountsAsMultiple d ↔ x.IsMultiple d := by
  have hvalue : ∀ {y e}, Divided x d y e → (y.IsMultiple e ↔ x.IsMultiple d) := by
    intro y e hdivided
    cases hdivided with
    | ints => exact Iff.rfl
    | doubles hne ha hb =>
      rcases h with ⟨n, m, hn, hm⟩ | ⟨hx, hd⟩
      · exact absurd hm (hne n m hn)
      · exact isMultiple_congr (hx.rational?_eq ha) (hd.rational?_eq hb)
  have hdivided : ∃ y e, Divided x d y e := by
    by_cases hints : ∃ n m, x = .int n ∧ d = .int m
    · obtain ⟨n, m, hn, hm⟩ := hints
      exact ⟨_, _, .ints hn hm⟩
    · obtain ⟨hx, hd⟩ := h.resolve_left hints
      obtain ⟨a, ha⟩ := hx.exists_countsAs
      obtain ⟨b, hb⟩ := hd.exists_countsAs
      exact ⟨_, _, .doubles (fun n m hn hm => hints ⟨n, m, hn, hm⟩) ha hb⟩
  constructor
  · rintro ⟨y, e, hye, hm⟩
    exact (hvalue hye).1 hm
  · intro hm
    obtain ⟨y, e, hye⟩ := hdivided
    exact ⟨y, e, hye, (hvalue hye).2 hm⟩

end Number

namespace Validation

open Outcome Number

variable {keywords : Entries} {x d : Number} {p q : ℚ}

/-! ### What is told of a divisor -/

lemma isZero_eq_false (hd : d.rational? = some q) (hq : q ≠ 0) : d.isZero = false := by
  rw [← Bool.not_eq_true, isZero, Number.eq_iff]
  rintro ⟨hrank, -⟩
  obtain ⟨t, ht, rfl⟩ := rational?_eq_some.1 hd
  have hzero : some (Rank.finite t) = some (Rank.finite (0 * Double.unit)) := ht.symm.trans hrank
  simp only [zero_mul, Option.some.injEq, Rank.finite.injEq] at hzero
  simp [hzero] at hq

/-- A divisor is told if the number does not count as a multiple of it, and nothing else is. -/
lemma multipleRefusals_eq (hm : keywords.given? "multipleOf" = some (.number d))
    (hx : x.rational? = some p) (hd : d.rational? = some q) (hq : q ≠ 0) :
    .multipleOf (.number d) ∈ multipleRefusals keywords x ↔ ¬x.CountsAsMultiple d := by
  rw [← isMultipleOf_iff hx hd hq, Bool.not_eq_true]
  unfold multipleRefusals
  cases hi : x.isMultipleOf d <;>
    simp [hm, Value.asNumber?, isZero_eq_false hd hq, hi]

/-- Only the check of the divisor tells it. -/
lemma mem_numberRefusals {type : JsonType} {divisor : Value} :
    .multipleOf divisor ∈ numberRefusals type keywords x ↔
      .multipleOf divisor ∈ multipleRefusals keywords x := by
  have hwhole : .multipleOf divisor ∉ wholeRefusals type x := by
    unfold wholeRefusals
    split <;> simp
  have hguard : .multipleOf divisor ∉ guardRefusals keywords .number .plain (.number x) := by
    unfold guardRefusals typeReasons Value.mismatch? constRefusals enumRefusals
    repeat' split
    all_goals simp
  have hbounds : .multipleOf divisor ∉ Bound.all.flatMap (boundRefusals keywords x) := by
    intro hmem
    obtain ⟨bound, -, hmem⟩ := List.mem_flatMap.1 hmem
    unfold boundRefusals at hmem
    repeat' split at hmem
    all_goals simp at hmem
  simp only [numberRefusals, List.mem_append, hwhole, hguard, hbounds, false_or]

/-! ### A node without its divisor -/

def withoutDivisor (keywords : Entries) : Entries := keywords.erase (.string "multipleOf")

lemma named?_withoutDivisor {name : String} (h : name ≠ "multipleOf") :
    (withoutDivisor keywords).named? name = keywords.named? name := by
  unfold withoutDivisor Entries.named?
  rw [Entries.get?_erase rfl, if_neg]
  simpa using h.symm

lemma declaredType_withoutDivisor :
    (withoutDivisor keywords).declaredType = keywords.declaredType := by
  unfold Entries.declaredType
  rw [named?_withoutDivisor (by decide)]

/-- The other checks of a number read other keywords. -/
lemma magnitudeSettles_iff : MagnitudeSettles keywords x ↔
    MagnitudeSettles (withoutDivisor keywords) x ∧ HasAnswer (multipleReasons keywords x) := by
  have hbound : ∀ bound : Bound,
      boundReasons (withoutDivisor keywords) x bound = boundReasons keywords x bound := by
    intro bound
    unfold boundReasons whenGiven Entries.given?
    rw [named?_withoutDivisor (by cases bound <;> decide)]
  have hmultiple : multipleReasons (withoutDivisor keywords) x = .ok [] := by
    unfold multipleReasons whenGiven Entries.given? withoutDivisor Entries.named?
    rw [Entries.get?_erase rfl, if_pos (by simp)]
    rfl
  constructor
  · rintro ⟨hb, hm⟩
    exact ⟨⟨fun bound => hbound bound ▸ hb bound, _, hmultiple⟩, hm⟩
  · rintro ⟨⟨hb, -⟩, hm⟩
    exact ⟨fun bound => hbound bound ▸ hb bound, hm⟩

lemma guardReasons_withoutDivisor (expected : JsonType) (form : LiteralForm) (value : Value) :
    guardReasons (withoutDivisor keywords) expected form value =
      guardReasons keywords expected form value := by
  unfold guardReasons constReasons enumReasons whenGiven Entries.defined? Entries.given?
  rw [named?_withoutDivisor (by decide), named?_withoutDivisor (by decide)]

/-- **A divisor is told** exactly if the number does not count as a multiple of it: for two integers
of any size, and for numbers that doubles equal, if the exact value of the one is no whole multiple
of that of the other. There is a verdict if there is one without the divisor, and the number counts
as a multiple or the divisor can be written. -/
theorem divisor_told {type : JsonType} {place : Place} (ht : keywords.declaredType = .one type)
    (htype : type.isNumeric = true) (hm : keywords.given? "multipleOf" = some (.number d))
    (hx : x.rational? = some p) (hd : d.rational? = some q) (hq : q ≠ 0) :
    (∀ verdict, (validate (.object keywords) (.number x) place).result = .ok verdict →
      ((∃ v ∈ verdict.violations, v.reason = .multipleOf (.number d)) ↔ ¬x.CountsAsMultiple d)) ∧
    ((∃ n m, x = .int n ∧ d = .int m) ∨ x.IsDouble ∧ d.IsDouble →
      (x.CountsAsMultiple d ↔ x.IsMultiple d)) ∧
    (HasAnswer (validate (.object keywords) (.number x) place).result ↔
      HasAnswer (validate (.object (withoutDivisor keywords)) (.number x) place).result ∧
        (x.CountsAsMultiple d ∨ (Value.number d).isWritable = true)) := by
  refine ⟨fun verdict h => ?_, countsAsMultiple_iff, ?_⟩
  · rw [verdict_on_number ht htype h, violations_verdictOf, ← multipleRefusals_eq hm hx hd hq,
      ← @mem_numberRefusals _ _ type]
    simp [violationsAt]
  · have hmultiple : HasAnswer (multipleReasons keywords x) ↔
        x.CountsAsMultiple d ∨ (Value.number d).isWritable = true := by
      unfold multipleReasons whenGiven
      rw [hm, ← isMultipleOf_iff hx hd hq]
      simp [Value.asNumber?, isZero_eq_false hd hq, hasAnswer_reportIf_iff, Reason.canShow]
    have ht' : (withoutDivisor keywords).declaredType = .one type :=
      declaredType_withoutDivisor.trans ht
    rw [hasAnswer_validate_numeric ht htype rfl, hasAnswer_validate_numeric ht' htype rfl,
      hasAnswer_numericReasons_iff htype, hasAnswer_numericReasons_iff htype,
      guardReasons_withoutDivisor, magnitudeSettles_iff, hmultiple, and_assoc]

/-- The double nearest to a tenth, and that nearest to three tenths. -/
def tenth : Number := .double (.positive 1019 0x999999999999A)

def threeTenths : Number := .double (.positive 1021 0x3333333333333)

def tenthsKeywords : Entries :=
  [(.string "type", .string "number"), (.string "multipleOf", .number tenth)]

/-- Three tenths, rounded, are no multiple of a tenth, rounded. -/
theorem divisor_told_tenth :
    tenthsKeywords.declaredType = .one .number ∧
      tenthsKeywords.given? "multipleOf" = some (.number tenth) ∧
      ∃ p q verdict, threeTenths.rational? = some p ∧ tenth.rational? = some q ∧ q ≠ 0 ∧
        (validate (.object tenthsKeywords) (.number threeTenths) .start).result = .ok verdict ∧
        (∃ v ∈ verdict.violations, v.reason = .multipleOf (.number tenth)) ∧
        ¬threeTenths.IsMultiple tenth := by
  have ht : tenthsKeywords.declaredType = .one .number :=
    Entries.declaredType_of_named? (by simp [tenthsKeywords, JsonType.name])
  have hm : tenthsKeywords.given? "multipleOf" = some (.number tenth) := by
    simp [tenthsKeywords, Entries.given?, Value.isNull]
  obtain ⟨p, hp⟩ : ∃ p, threeTenths.rational? = some p := ⟨_, rfl⟩
  obtain ⟨q, hq, hzero⟩ : ∃ q, tenth.rational? = some q ∧ q ≠ 0 :=
    ⟨_, rfl, by norm_num [Double.size]⟩
  obtain ⟨verdict, hverdict⟩ := exists_of_isOk
    (show (validate (.object tenthsKeywords) (.number threeTenths) .start).result.isOk = true by
      decide +kernel)
  obtain ⟨hiff, hexact, -⟩ := @divisor_told _ _ _ _ _ _ .start ht rfl hm hp hq hzero
  have hcounts : ¬threeTenths.CountsAsMultiple tenth := by
    rw [← isMultipleOf_iff hp hq hzero]
    decide +kernel
  refine ⟨ht, hm, p, q, verdict, hp, hq, hzero, hverdict, ?_, ?_⟩
  · exact (hiff verdict hverdict).2 hcounts
  · exact mt (hexact (.inr ⟨isDouble_double _, isDouble_double _⟩)).2 hcounts

def two : Number := .double (.positive 1024 0)

def evenKeywords : Entries :=
  [(.string "type", .string "number"), (.string "multipleOf", .number two)]

/-- An odd integer that no double equals is accepted as a multiple of two. -/
theorem odd_accepted_beside_double :
    (validate (.object evenKeywords) (.int (2 ^ 53 + 1)) .start).result =
        .ok (.valid (.int (2 ^ 53 + 1))) ∧
      ¬Number.IsMultiple (.int (2 ^ 53 + 1)) two := by
  have ht : evenKeywords.declaredType = .one .number :=
    Entries.declaredType_of_named? (by simp [evenKeywords, JsonType.name])
  constructor
  · obtain ⟨w, hw⟩ := exists_of_isValid (show (validate (.object evenKeywords)
      (.int (2 ^ 53 + 1)) .start).result.toOption.any Verdict.isValid = true by decide +kernel)
    obtain ⟨-, hsame⟩ := (validate_numeric_eq_valid ht rfl rfl).1 hw
    rw [hw, hsame]
  · rintro ⟨p, q, hp, hq, k, hk⟩
    have hq2 : q = 2 := by
      rw [← Option.some.inj hq]
      norm_num [Double.size]
    obtain rfl : ((2 ^ 53 + 1 : ℤ) : ℚ) = p := Option.some.inj hp
    rw [hq2] at hk
    have hint : (2 ^ 53 + 1 : ℤ) = k * 2 := by exact_mod_cast hk
    omega

end Validation

end JsonSchema
