import JsonSchema.Proofs.Loading.Decimals
import JsonSchema.Proofs.Loading.Ends

/-!
Texts that fit the tags of their scalars.

Beside numbers these are words and dates. Main statement: a text that fits its tag has a value, or
is malformed.
-/

namespace JsonSchema

open Yaml

namespace Yaml

/-! ### Words and dates -/

lemma exists_boolOf {cs : List Char} (h : Form.isBool cs = true) : ∃ v, boolOf cs = .ok v := by
  have hwords : ∀ w ∈ ["yes", "Yes", "YES", "no", "No", "NO", "true", "True", "TRUE", "false",
      "False", "FALSE", "on", "On", "ON", "off", "Off", "OFF"],
      (boolOf w.toList).toOption.isSome = true := by
    decide +kernel
  have hsome := hwords _ (List.contains_iff_mem.1 h)
  rw [String.toList_ofList] at hsome
  cases hbool : boolOf cs with
  | ok v => exact ⟨v, rfl⟩
  | error d =>
    rw [hbool] at hsome
    cases hsome

/-- A date, with its time if it has one, that is in the calendar. -/
def Form.Timestamp.isReal (t : Form.Timestamp) : Bool :=
  Date.isPossible ⟨natOf t.year, natOf t.month, natOf t.day⟩ && t.time.all fun time =>
    natOf time.hour < 24 && natOf time.minute < 60 && natOf time.second < 60
      && (zoneOffset time.zone).all fun offset => offset.natAbs < 86400

lemma isDigit_of_time? {cs : List Char} {time : Form.Time} (h : Form.time? cs = some time) :
    ∀ c ∈ time.fraction, c.isDigit = true := by
  unfold Form.time? at h
  extract_lets clock at h
  have hclock (rest : List Char) (h : clock rest = some time) :
      ∀ c ∈ time.fraction, c.isDigit = true := by
    obtain ⟨hour, -, h⟩ := Option.bind_eq_some_iff.1 h
    obtain ⟨behindHour, -, h⟩ := Option.bind_eq_some_iff.1 h
    obtain ⟨minute, -, h⟩ := Option.bind_eq_some_iff.1 h
    obtain ⟨behindMinute, -, h⟩ := Option.bind_eq_some_iff.1 h
    obtain ⟨second, -, h⟩ := Option.bind_eq_some_iff.1 h
    obtain ⟨zone, -, h⟩ := Option.bind_eq_some_iff.1 h
    cases h
    dsimp only
    split
    · exact Json.isDigit_of_mem_span
    · nofun
  split at h
  · split at h
    · exact hclock _ h
    · split at h
      · exact hclock _ h
      · cases h
  · cases h

lemma isDigit_of_timestamp? {cs : List Char} {t : Form.Timestamp}
    (h : Form.timestamp? cs = some t) : ∀ time ∈ t.time, ∀ c ∈ time.fraction, c.isDigit = true := by
  obtain ⟨year, -, h⟩ := Option.bind_eq_some_iff.1 h
  obtain ⟨behindYear, -, h⟩ := Option.bind_eq_some_iff.1 h
  obtain ⟨month, -, h⟩ := Option.bind_eq_some_iff.1 h
  obtain ⟨behindMonth, -, h⟩ := Option.bind_eq_some_iff.1 h
  obtain ⟨day, -, h⟩ := Option.bind_eq_some_iff.1 h
  dsimp only at h
  split at h
  · cases h
    nofun
  · obtain ⟨time, htime, h⟩ := Option.bind_eq_some_iff.1 h
    cases h
    rintro _ ⟨⟩
    exact isDigit_of_time? htime

/-- Six digits make less than a million. -/
lemma microseconds_lt {ds : List Char} (h : ∀ c ∈ ds, c.isDigit = true) :
    microseconds ds < 1000000 := by
  have hlength : (ds.take 6).length ≤ 6 := List.length_take_le 6 ds
  have hdigits : ∀ c ∈ ds.take 6 ++ List.replicate (6 - (ds.take 6).length) '0',
      c.isDigit = true := by
    intro c hc
    rcases List.mem_append.1 hc with hc | hc
    · exact h c (List.mem_of_mem_take hc)
    · rw [List.eq_of_mem_replicate hc]
      rfl
  have hlt := Json.digitsValue_lt hdigits
  rwa [List.length_append, List.length_replicate, Nat.add_sub_cancel' hlength] at hlt

def isRealDate (cs : List Char) : Bool :=
  (Form.timestamp? (Form.visible cs)).any Form.Timestamp.isReal

lemma exists_timestampOf {cs : List Char} (h : isRealDate cs = true) :
    ∃ v, timestampOf cs = .ok v := by
  obtain ⟨t, ht, hreal⟩ := (Option.any_eq_true _ _).1 h
  rw [Form.Timestamp.isReal, Bool.and_eq_true] at hreal
  unfold timestampOf
  rw [ht]
  dsimp only
  split
  · rw [if_pos hreal.1]
    exact ⟨_, rfl⟩
  · rename_i time htime
    have hdigits := isDigit_of_timestamp? ht time htime
    have hclock := hreal.2
    rw [htime, Option.all_some] at hclock
    simp only [Bool.and_eq_true, decide_eq_true_eq] at hclock
    obtain ⟨⟨⟨hhour, hminute⟩, hsecond⟩, hzone⟩ := hclock
    rw [if_pos]
    · exact ⟨_, rfl⟩
    · simp only [DateTime.isPossible, hreal.1, hhour, hminute, hsecond, microseconds_lt hdigits,
        decide_true, Bool.and_true, Bool.true_and]
      cases hoffset : zoneOffset time.zone with
      | none => rfl
      | some offset =>
        rw [hoffset] at hzone
        exact hzone

/-! ### Scalars -/

/-- A text is of the form that a tag asks for, and what it says is there: a date is in the calendar,
an integer has digits and not too many, and a number in base sixty has not too many parts. -/
def Tag.fits (cs : List Char) : Tag → Bool
  | bool => Form.isBool cs
  | int => Form.isInt cs && isShortInteger cs
  | float => Form.isFloat cs && isShortDecimal cs
  | timestamp => isRealDate cs
  | _ => true

lemma ends_bytesOf (cs : List Char) : Ends (· = .malformed) (fun _ => True) (bytesOf cs) := by
  unfold bytesOf
  split
  · split
    · exact .ok trivial
    · exact .error rfl
  · exact .error rfl

/-- A text that fits its tag has a value, or is malformed. -/
theorem ends_scalarOf {tag : Tag} {text : Text} (h : tag.fits text.chars = true) :
    Ends (· = .malformed) (fun _ => True) (scalarOf tag text) := by
  have hends {x : Build Value} (hx : ∃ v, x = .ok v) :
      Ends (· = .malformed) (fun _ => True) x := by
    obtain ⟨v, rfl⟩ := hx
    exact .ok trivial
  cases tag with
  | bool => exact hends (exists_boolOf h)
  | int =>
    rw [Tag.fits, Bool.and_eq_true] at h
    exact hends (exists_integerOf h.1 h.2)
  | float =>
    rw [Tag.fits, Bool.and_eq_true] at h
    exact hends (exists_floatOf h.1 h.2)
  | timestamp => exact hends (exists_timestampOf h)
  | binary => exact ends_bytesOf _
  | null => exact .ok trivial
  | str => exact .ok trivial
  | _ => exact .error rfl

end Yaml

end JsonSchema
