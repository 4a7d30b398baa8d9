import JsonSchema.Proofs.Magnitude
import JsonSchema.Proofs.Object.Stable
import JsonSchema.Proofs.Rounding

/-!
Numbers within bounds.

A bound refuses a number when it finds it beyond, so what a node with bounds accepts are the numbers
that compare the right way, by their exact values, with every limit. Main statement: they are
exactly the numbers of the interval, and for type integer the whole ones among them. NaN compares
with nothing, hence it is beyond no bound, and a node of type number accepts it.
-/

namespace JsonSchema

/-- Whether a place on the number line is on the right side of a limit. -/
def Bound.Admits (bound : Bound) (x limit : WithBot (WithTop ℚ)) : Prop :=
  match bound with
  | minimum => limit ≤ x
  | exclusiveMinimum => limit < x
  | maximum => x ≤ limit
  | exclusiveMaximum => x < limit

/-- A number whose exact value all limits of a node admit. -/
def Entries.Admit (keywords : Entries) (x : Number) : Prop :=
  ∀ (bound : Bound) (y : Number), keywords.given? bound.keyword = some (.number y) →
    ∃ p q, x.extended? = some p ∧ y.extended? = some q ∧ bound.Admits p q

namespace Number

lemma exists_extended {x : Number} (h : x.isNaN = false) : ∃ p, x.extended? = some p := by
  rw [isNaN_eq, Option.isNone_eq_false_iff, Option.isSome_iff_exists] at h
  obtain ⟨rank, hr⟩ := h
  exact ⟨rank.extended, by rw [extended?_eq, hr]; rfl⟩

/-- Beyond a bound is what it does not admit. -/
lemma isViolated_eq_false_iff {bound : Bound} {x y : Number} (hx : x.isNaN = false)
    (hy : y.isNaN = false) : bound.isViolated x y = false ↔
      ∃ p q, x.extended? = some p ∧ y.extended? = some q ∧ bound.Admits p q := by
  obtain ⟨p, hp⟩ := exists_extended hx
  obtain ⟨q, hq⟩ := exists_extended hy
  rw [← Bool.not_eq_true]
  cases bound <;> simp [Bound.isViolated, Bound.Admits, lt_iff, le_iff, hp, hq]

lemma eq_nan {x : Number} (h : x.isNaN = true) : x = .double .nan := by
  cases x with
  | int n => cases h
  | double d => cases d <;> first | rfl | cases h

lemma not_isWhole_of_isNaN {x : Number} (h : x.isNaN = true) : ¬x.IsWhole := by
  rintro (⟨n, hn⟩ | ⟨negative, rfl⟩)
  · obtain ⟨s, hs, -⟩ := rational?_eq_some.1 hn
    simp [isNaN_eq, hs] at h
  · cases h

lemma isViolated_of_isNaN (bound : Bound) {x : Number} (h : x.isNaN = true) (y : Number) :
    bound.isViolated x y = false := by
  rw [isNaN_eq, Option.isNone_iff_eq_none] at h
  cases bound <;> simp [Bound.isViolated, lt, le, compareBy, h]

end Number

namespace Validation

open Outcome

/-- A node of a type of numbers that has nothing but bounds, and numbers for limits. -/
structure BoundsOnly (type : JsonType) (keywords : Entries) : Prop where
  declared : keywords.declaredType = .one type
  numeric : type.isNumeric = true
  lacks : keywords.Lacks ["const", "enum", "multipleOf"]
  limits : ∀ (bound : Bound) limit, keywords.given? bound.keyword = some limit →
    ∃ y : Number, limit = .number y ∧ y.isNaN = false

namespace BoundsOnly

variable {type : JsonType} {keywords : Entries} (h : BoundsOnly type keywords) {x : Number}
  {value : Value} {place : Place}

include h

lemma guardReasons_eq (form : LiteralForm) (value : Value) :
    guardReasons keywords .number form value = .ok (typeReasons .number value) :=
  guardReasons_of_lacks (h.lacks.mono (by simp)) .number form value

lemma multipleReasons_eq : multipleReasons keywords x = .ok [] := by
  unfold multipleReasons whenGiven
  rw [Entries.given?_of_absent (h.lacks _ (by simp))]

lemma boundRefusals_eq_nil_iff {bound : Bound} : boundRefusals keywords x bound = [] ↔
    ∀ y, keywords.given? bound.keyword = some (.number y) → bound.isViolated x y = false := by
  unfold boundRefusals
  cases hl : keywords.given? bound.keyword with
  | none => simp
  | some limit =>
    obtain ⟨y, rfl, -⟩ := h.limits bound limit hl
    cases hv : bound.isViolated x y <;> simp [Value.asNumber?, hv]

/-- A limit that is passed can be applied, and so can one that can be written. -/
lemma hasAnswer_boundReasons {bound : Bound}
    (hb : ∀ y, keywords.given? bound.keyword = some (.number y) →
      bound.isViolated x y = false ∨ (Value.number y).isWritable = true) :
    HasAnswer (boundReasons keywords x bound) := by
  unfold boundReasons whenGiven
  cases hl : keywords.given? bound.keyword with
  | none => exact hasAnswer_ok _
  | some limit =>
    obtain ⟨y, rfl, -⟩ := h.limits bound limit hl
    exact hasAnswer_reportIf_iff.2 (hb y hl)

/-- The checks of a number have an answer if its limits are passed or can be written. -/
lemma hasAnswer_numericReasons
    (hb : ∀ (bound : Bound) y, keywords.given? bound.keyword = some (.number y) →
      bound.isViolated x y = false ∨ (Value.number y).isWritable = true) :
    HasAnswer (numericReasons type keywords (.number x)) :=
  (hasAnswer_numericReasons_iff h.numeric).2 ⟨⟨_, h.guardReasons_eq .plain _⟩,
    fun bound => h.hasAnswer_boundReasons (hb bound), ⟨_, h.multipleReasons_eq⟩⟩

lemma numberRefusals_eq_nil_iff : numberRefusals type keywords x = [] ↔
    (type = .integer → x.IsWhole) ∧ ∀ (bound : Bound) y,
      keywords.given? bound.keyword = some (.number y) → bound.isViolated x y = false := by
  have hwhole : wholeRefusals type x = [] ↔ (type = .integer → x.IsWhole) := by
    rw [← Number.isIntegral_iff]
    simp [wholeRefusals]
  have hall : (∀ bound ∈ Bound.all, boundRefusals keywords x bound = []) ↔ ∀ (bound : Bound) y,
      keywords.given? bound.keyword = some (.number y) → bound.isViolated x y = false := by
    refine ⟨fun hb bound => h.boundRefusals_eq_nil_iff.1 (hb bound ?_),
      fun hb bound _ => h.boundRefusals_eq_nil_iff.2 (hb bound)⟩
    cases bound <;> simp [Bound.all]
  have hkind : typeReasons .number (.number x) = [] := by
    simp [typeReasons, Value.mismatch?, Value.kindName, JsonType.name]
  rw [numberRefusals, ← guardReasons_eq_ok (h.guardReasons_eq .plain _), hkind,
    ← multipleReasons_eq_ok h.multipleReasons_eq, List.append_nil, List.append_nil,
    List.append_eq_nil_iff, List.flatMap_eq_nil_iff, hwhole, hall]

/-- A number passes if it is whole, for type integer, and beyond no limit. -/
lemma numericReasons_eq_nil_iff : numericReasons type keywords (.number x) = .ok [] ↔
    (type = .integer → x.IsWhole) ∧ ∀ (bound : Bound) y,
      keywords.given? bound.keyword = some (.number y) → bound.isViolated x y = false := by
  rw [← h.numberRefusals_eq_nil_iff]
  constructor
  · intro hr
    exact (numericReasons_eq_ok h.numeric hr).symm
  · intro hn
    have hb := (h.numberRefusals_eq_nil_iff.1 hn).2
    obtain ⟨reasons, hr⟩ := h.hasAnswer_numericReasons fun bound y hy => .inl (hb bound y hy)
    rw [hr, ← hn, numericReasons_eq_ok h.numeric hr]

/-- Beyond no limit is what all limits admit; so it is of NaN where it is refused as no integer, or
where there is no limit. -/
lemma admit_iff (hn : x.isNaN = true →
      type = .integer ∨ ∀ bound : Bound, keywords.given? bound.keyword = none) :
    numericReasons type keywords (.number x) = .ok [] ↔
      (type = .integer → x.IsWhole) ∧ keywords.Admit x := by
  rw [h.numericReasons_eq_nil_iff]
  cases hx : x.isNaN with
  | false =>
    refine and_congr_right fun _ => forall₂_congr fun bound y => imp_congr_right fun hy => ?_
    obtain ⟨z, hz, hnan⟩ := h.limits bound _ hy
    obtain rfl : y = z := Value.number.inj hz
    exact Number.isViolated_eq_false_iff hx hnan
  | true =>
    rcases hn hx with rfl | hnone
    · have hwhole : ¬x.IsWhole := Number.not_isWhole_of_isNaN hx
      exact iff_of_false (fun hb => hwhole (hb.1 rfl)) fun hb => hwhole (hb.1 rfl)
    · simp [Entries.Admit, hnone]

end BoundsOnly

/-- **A node with bounds accepts** exactly the numbers of the interval, by exact value; for type
integer the whole ones among them. It leaves them as they are, and has a verdict on every value if
its limits can be written. For NaN this holds of type integer, and where there is no bound. -/
theorem accepted_in_range {type : JsonType} {keywords : Entries} {value : Value} {place : Place}
    (h : BoundsOnly type keywords) (hv : value.isUndefined = false)
    (hn : value = .number (.double .nan) →
      type = .integer ∨ ∀ bound : Bound, keywords.given? bound.keyword = none) :
    ((∃ w, (validate (.object keywords) value place).result = .ok (.valid w)) ↔
      ∃ x, value = .number x ∧ (type = .integer → x.IsWhole) ∧ keywords.Admit x) ∧
    (∀ w, (validate (.object keywords) value place).result = .ok (.valid w) → w = value) ∧
    ((∀ (bound : Bound) y, keywords.given? bound.keyword = some (.number y) →
        (Value.number y).isWritable = true) →
      HasAnswer (validate (.object keywords) value place).result) := by
  have hvalid {w} := @validate_numeric_eq_valid type keywords place value h.declared h.numeric hv w
  refine ⟨?_, fun w hw => (hvalid.1 hw).2.symm, fun hwritable => ?_⟩
  · have hnumber : ∀ x, value = .number x → (numericReasons type keywords value = .ok [] ↔
        (type = .integer → x.IsWhole) ∧ keywords.Admit x) := by
      rintro x rfl
      refine h.admit_iff fun hx => hn ?_
      rw [Number.eq_nan hx]
    constructor
    · rintro ⟨w, hw⟩
      obtain ⟨x, rfl⟩ := exists_number_of_numericReasons h.numeric (hvalid.1 hw).1
      exact ⟨x, rfl, (hnumber x rfl).1 (hvalid.1 hw).1⟩
    · rintro ⟨x, rfl, hx⟩
      exact ⟨_, hvalid.2 ⟨(hnumber x rfl).2 hx, rfl⟩⟩
  · rw [hasAnswer_validate_numeric h.declared h.numeric hv]
    by_cases hx : ∃ x, value = .number x
    · obtain ⟨x, rfl⟩ := hx
      exact h.hasAnswer_numericReasons fun bound y hy => .inr (hwritable bound y hy)
    · rw [hasAnswer_numericReasons_of_ne h.numeric (not_exists.1 hx)]
      exact ⟨_, h.guardReasons_eq .plain _⟩

/-- Two to the power of 53; from here on not all integers are doubles. -/
def firstGap : Number := .double (.positive 1076 0)

def wideKeywords : Entries :=
  [(.string "type", .string "integer"), (.string "exclusiveMinimum", .number firstGap),
    (.string "exclusiveMaximum", .int Number.beyondDoubles)]

lemma boundsOnly_wideKeywords : BoundsOnly .integer wideKeywords where
  declared := Entries.declaredType_of_named? (by simp [wideKeywords, JsonType.name])
  numeric := rfl
  lacks := by decide +kernel
  limits := by
    intro bound limit hl
    cases bound <;> simp [wideKeywords, Bound.keyword, Entries.given?, Value.isNull] at hl
    · exact ⟨firstGap, hl.1.symm, rfl⟩
    · exact ⟨.int Number.beyondDoubles, hl.1.symm, rfl⟩

/-- The next integer above the double is accepted, though the double nearest to it is not. -/
theorem accepted_in_range_wide :
    BoundsOnly .integer wideKeywords ∧
      (validate (.object wideKeywords) (.int (2 ^ 53 + 1)) .start).result =
        .ok (.valid (.int (2 ^ 53 + 1))) ∧
      wideKeywords.Admit (.int (2 ^ 53 + 1)) := by
  obtain ⟨w, hw⟩ := exists_of_isValid (show (validate (.object wideKeywords)
    (.int (2 ^ 53 + 1)) .start).result.toOption.any Verdict.isValid = true by decide +kernel)
  obtain ⟨hiff, hsame, -⟩ := @accepted_in_range _ _ (.int (2 ^ 53 + 1)) .start
    boundsOnly_wideKeywords rfl nofun
  obtain ⟨x, hx, -, hadmit⟩ := hiff.1 ⟨w, hw⟩
  cases hx
  exact ⟨boundsOnly_wideKeywords, hsame w hw ▸ hw, hadmit⟩

/-- NaN is a number to a node of type number, whatever its bounds are. -/
lemma validate_nan {keywords : Entries} (h : BoundsOnly .number keywords) (place : Place) :
    (validate (.object keywords) (.number (.double .nan)) place).result =
      .ok (.valid (.number (.double .nan))) := by
  refine (validate_numeric_eq_valid h.declared rfl rfl).2 ⟨h.numericReasons_eq_nil_iff.2 ?_, rfl⟩
  exact ⟨nofun, fun bound y _ => Number.isViolated_of_isNaN bound rfl y⟩

def naturalKeywords : Entries := [(.string "type", .string "number"), (.string "minimum", .int 0)]

lemma boundsOnly_naturalKeywords : BoundsOnly .number naturalKeywords where
  declared := Entries.declaredType_of_named? (by simp [naturalKeywords, JsonType.name])
  numeric := rfl
  lacks := by decide +kernel
  limits := by
    intro bound limit hl
    cases bound <;> simp [naturalKeywords, Bound.keyword, Entries.given?, Value.isNull] at hl
    exact ⟨.int 0, hl.1.symm, rfl⟩

/-- NaN is not in the interval, and yet it is accepted. -/
theorem nan_accepted_outside :
    (validate (.object naturalKeywords) (.number (.double .nan)) .start).result =
      .ok (.valid (.number (.double .nan))) ∧ ¬naturalKeywords.Admit (.double .nan) := by
  refine ⟨validate_nan boundsOnly_naturalKeywords .start, fun hadmit => ?_⟩
  obtain ⟨p, q, hp, -⟩ := hadmit .minimum (.int 0)
    (by simp [naturalKeywords, Bound.keyword, Entries.given?, Value.isNull, Value.int])
  cases hp

end Validation

end JsonSchema
