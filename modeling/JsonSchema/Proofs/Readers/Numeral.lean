import JsonSchema.Proofs.Readers.Shared
import Mathlib.Data.List.TakeDrop
import Mathlib.Tactic.IntervalCases

/-!
Numbers that JSON has in common with YAML.

`Numeral` lists the forms of a number that both formats read, with the number. Main statement: a
number of JSON in a shared text has one of these forms.
-/

namespace JsonSchema

/-! ### Digits -/

lemma mem_digits {c : Char} (h : c.isDigit = true) : c ∈ "0123456789".toList := by
  obtain ⟨hleast, hmost⟩ := Char.isDigit_iff_toNat.1 h
  have hleast : 48 ≤ c.toNat := hleast
  have hmost : c.toNat ≤ 57 := hmost
  rw [← Char.ofNat_toNat c]
  interval_cases c.toNat <;> decide

/-- What holds of the ten digits. -/
lemma of_isDigit {p : Char → Bool} (hp : "0123456789".toList.all p = true) {c : Char}
    (h : c.isDigit = true) : p c = true := List.all_eq_true.1 hp c (mem_digits h)

/-- The digits of a number, at least one. -/
structure Digits (ds : List Char) : Prop where
  ne_nil : ds ≠ []
  all : ∀ c ∈ ds, c.isDigit = true

lemma Digits.exists_cons {ds : List Char} (h : Digits ds) :
    ∃ c cs, ds = c :: cs ∧ c.isDigit = true := by
  obtain ⟨c, cs, rfl⟩ := List.exists_cons_of_ne_nil h.ne_nil
  exact ⟨c, cs, rfl, h.all c List.mem_cons_self⟩

/-- An exponent with its sign, or none. -/
inductive Exponent : List Char → Int → Prop
  | none : Exponent [] 0
  | signed {letter : Char} (hletter : letter = 'e' ∨ letter = 'E') (negative : Bool)
      {ds : List Char} (hds : Digits ds) :
      Exponent (letter :: (if negative then '-' else '+') :: ds)
        (if negative then -(Json.digitsValue ds : Int) else Json.digitsValue ds)

def signText (negative : Bool) : List Char := if negative then ['-'] else []

/-- What holds of a minus holds of the sign. -/
lemma of_mem_signText {p : Char → Bool} (hp : p '-' = true) {negative : Bool} {c : Char}
    (hc : c ∈ signText negative) : p c = true := by
  cases negative
  · cases hc
  · rwa [List.mem_singleton.1 hc]

/-- The text of a number, and its value. -/
inductive Numeral : List Char → Value → Prop
  | zero (negative : Bool) : Numeral (signText negative ++ ['0']) (.int 0)
  | int (negative : Bool) {d : Char} {ds : List Char} (hds : Digits (d :: ds)) (hd : d ≠ '0')
      (hlimit : (d :: ds).length ≤ digitLimit) : Numeral (signText negative ++ d :: ds)
        (.int (if negative then -(Json.digitsValue (d :: ds) : Int)
          else Json.digitsValue (d :: ds)))
  | decimal (negative : Bool) {whole fraction exponent : List Char} {e : Int}
      (hwhole : Digits whole) (hfraction : Digits fraction) (hexponent : Exponent exponent e) :
      Numeral (signText negative ++ (whole ++ '.' :: (fraction ++ exponent)))
        (.double (Double.ofDecimal negative (Json.digitsValue (whole ++ fraction))
          (e - fraction.length)))

/-! ### Numbers in JSON -/

namespace Json

lemma span_isDigit {cs ds rest : List Char} (h : cs.span Char.isDigit = (ds, rest)) :
    cs = ds ++ rest ∧ ∀ c ∈ ds, c.isDigit = true := by
  rw [List.span_eq_takeWhile_dropWhile] at h
  cases h
  exact ⟨List.takeWhile_append_dropWhile.symm,
    fun c hc => List.all_eq_true.1 List.all_takeWhile c hc⟩

lemma wholeDigits_eq {cs whole rest : List Char} (h : wholeDigits cs = (whole, rest))
    (hne : whole ≠ []) : cs = whole ++ rest ∧ Digits whole ∧
      (whole = ['0'] ∨ ∃ d ds, whole = d :: ds ∧ d ≠ '0') := by
  unfold wholeDigits at h
  split at h
  · cases h
    exact ⟨rfl, ⟨hne, List.forall_mem_singleton.2 rfl⟩, .inl rfl⟩
  · rename_i hzero
    obtain ⟨hcs, hall⟩ := span_isDigit h
    obtain ⟨d, ds, rfl⟩ := List.exists_cons_of_ne_nil hne
    refine ⟨hcs, ⟨hne, hall⟩, .inr ⟨d, ds, rfl, ?_⟩⟩
    rintro rfl
    exact hzero _ hcs

lemma fractionDigits_eq {cs fraction rest : List Char} (h : fractionDigits cs = (fraction, rest)) :
    (fraction = [] ∧ rest = cs) ∨ (Digits fraction ∧ cs = '.' :: (fraction ++ rest)) := by
  unfold fractionDigits at h
  split at h
  · split at h
    · cases h
      exact .inl ⟨rfl, rfl⟩
    · rename_i hne
      obtain ⟨hcs, hall⟩ := span_isDigit h
      refine .inr ⟨⟨?_, hall⟩, by rw [hcs]⟩
      rintro rfl
      exact hne _ h
  · cases h
    exact .inl ⟨rfl, rfl⟩

lemma exponent?_eq_some {cs rest : List Char} {e : Int} (h : exponent? cs = some (e, rest))
    (hsign : cs.tail.head?.any (fun c => c == '-' || c == '+') = true) :
    ∃ exponent, cs = exponent ++ rest ∧ Exponent exponent e := by
  unfold exponent? at h
  split at h
  · rename_i letter more
    split at h
    · rename_i hletter
      obtain ⟨negative, more', rfl, hmore⟩ : ∃ negative more',
          more = (if negative then '-' else '+') :: more' ∧
            exponentSign more = (negative, more') := by
        cases more with
        | nil => cases hsign
        | cons c more' =>
          simp only [List.tail_cons, List.head?_cons, Option.any_some, Bool.or_eq_true,
            beq_iff_eq] at hsign
          rcases hsign with rfl | rfl
          · exact ⟨true, more', rfl, rfl⟩
          · exact ⟨false, more', rfl, rfl⟩
      rw [hmore] at h
      dsimp only at h
      split at h
      · cases h
      · rename_i digits rest' hne hspan
        obtain ⟨hcs, hall⟩ := span_isDigit hspan
        cases h
        refine ⟨letter :: (if negative then '-' else '+') :: digits, by rw [hcs]; rfl,
          .signed hletter negative ⟨hne, hall⟩⟩
    · cases h
  · cases h

lemma integer_eq_ok {negative : Bool} {whole : List Char} {v : Value}
    (h : integer negative whole = .ok v) : whole.length ≤ digitLimit ∧
      v = .int (if negative then -(digitsValue whole : Int) else digitsValue whole) := by
  unfold integer at h
  split at h
  · cases h
  · rename_i hlimit
    cases h
    exact ⟨Nat.le_of_not_lt hlimit, rfl⟩

/-- A number of JSON whose exponent, if any, has a sign and stands behind a fraction. -/
lemma unsigned_eq_ok {start cs rest : List Char} {negative : Bool} {v : Value}
    (h : unsigned start negative cs = .ok (v, rest))
    (hshared : hasSharedExponent cs = true) :
    ∃ w, cs = w ++ rest ∧ Numeral (signText negative ++ w) v := by
  unfold unsigned at h
  split at h
  · cases h
  · rename_i whole more hne hw
    obtain ⟨rfl, hwhole, hform⟩ := wholeDigits_eq hw hne
    obtain ⟨⟨fraction, more'⟩, hf⟩ : ∃ p, fractionDigits more = p := ⟨_, rfl⟩
    simp only [hasSharedExponent, hw, hf] at h hshared
    split at h
    · rename_i e rest' he
      cases h
      obtain ⟨hfne, hsign⟩ : fraction ≠ [] ∧
          more'.tail.head?.any (fun c => c == '-' || c == '+') = true := by
        simpa [he] using hshared
      obtain ⟨exponent, rfl, hexponent⟩ := exponent?_eq_some he hsign
      rcases fractionDigits_eq hf with ⟨rfl, -⟩ | ⟨hfraction, rfl⟩
      · exact absurd rfl hfne
      · exact ⟨whole ++ '.' :: (fraction ++ exponent), by simp,
          .decimal negative hwhole hfraction hexponent⟩
    · rcases fractionDigits_eq hf with ⟨rfl, rfl⟩ | ⟨hfraction, rfl⟩
      · obtain ⟨v', hv, heq⟩ := except_map_eq_ok.1 h
        cases heq
        obtain ⟨hlimit, rfl⟩ := integer_eq_ok hv
        refine ⟨whole, rfl, ?_⟩
        rcases hform with rfl | ⟨d, ds, rfl, hd⟩
        · cases negative
          · exact .zero false
          · exact .zero true
        · exact .int negative hwhole hd hlimit
      · simp only [List.isEmpty_iff, hfraction.ne_nil, if_false] at h
        cases h
        have := Numeral.decimal negative hwhole hfraction .none
        exact ⟨whole ++ '.' :: fraction, by simp, by simpa using this⟩

lemma number_eq_ok {cs rest : List Char} {v : Value} (h : number cs = .ok (v, rest))
    (hshared : isSharedNumber cs = true) : ∃ w, cs = w ++ rest ∧ Numeral w v := by
  unfold number at h
  unfold isSharedNumber at hshared
  split at h
  · obtain ⟨w, rfl, hw⟩ := unsigned_eq_ok h hshared
    exact ⟨'-' :: w, rfl, hw⟩
  · rename_i hminus
    split at hshared
    · exact absurd rfl (hminus _)
    · exact unsigned_eq_ok h hshared

end Json

end JsonSchema
