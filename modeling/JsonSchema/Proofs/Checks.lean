import JsonSchema.Proofs.Keys

/-!
The checks of one value without their faults.

Where a check has an answer, the answer is a plain function of the keywords and the value. These
functions say it; the lemmas say that the checks compute nothing else.
-/

namespace JsonSchema

/-! ### Falsy values -/

lemma Double.isNaN_of_isFinite {x : Double} (h : x.isFinite = true) : x.isNaN = false := by
  cases x <;> simp_all [isFinite, isNaN]

lemma Double.isNaN_ofInt? {n : Int} {x : Double} (h : ofInt? n = some x) : x.isNaN = false := by
  simp only [ofInt?, Option.ite_none_right_eq_some, Option.some.injEq] at h
  rw [← h.2]
  exact isNaN_of_isFinite h.1

namespace Value

/-- Whether a value is absent, null, false, zero, NaN or the empty string; a number may be of any
size. -/
def falsy : Value → Bool
  | undefined | null => true
  | bool b => !b
  | number x => x.isZero || x.isNaN
  | string s => s == ""
  | _ => false

lemma falsy_of_isFalsy {v : Value} {b : Bool} (h : v.isFalsy = .ok b) : v.falsy = b := by
  cases v with
  | number x =>
    simp only [isFalsy] at h
    cases hz : x.isZero
    · simp only [hz, Bool.false_eq_true, if_false] at h
      cases x with
      | int n =>
        split at h
        · rename_i d hd
          cases h
          simp [falsy, hz, Number.isNaN, Double.isNaN_ofInt? hd]
        · cases h
      | double x =>
        cases h
        simp [falsy, hz, Number.isNaN]
    · simp only [hz, if_true] at h
      cases h
      simp [falsy, hz]
  | _ => simp_all [isFalsy, falsy]

lemma falsy_of_isUndefined {v : Value} (h : v.isUndefined = true) : v.falsy = true := by
  cases v <;> simp_all [isUndefined, falsy]

end Value

namespace Validation

lemma isSuppressed_eq_ok {member : Value} {verdict : Verdict} {b : Bool}
    (h : isSuppressed member verdict = .ok b) : b = (!verdict.isValid && member.falsy) := by
  unfold isSuppressed at h
  split at h
  · rename_i hv
    cases h
    simp [hv]
  · rename_i hv
    simp [hv, Value.falsy_of_isFalsy h]

/-! ### Type and literals -/

lemma reportIf_eq_ok {failed : Bool} {reason : Reason} {reasons : List Reason}
    (h : reportIf failed reason = .ok reasons) : reasons = if failed then [reason] else [] := by
  unfold reportIf at h
  cases failed with
  | false => cases h; rfl
  | true =>
    simp only [if_true] at h
    split at h <;> cases h
    rfl

def constRefusals (keywords : Entries) (form : LiteralForm) (value : Value) : List Reason :=
  match keywords.defined? "const" with
  | some literal => if Value.jsonEqual value literal then [] else [.const form literal]
  | none => []

def candidates (literals : Value) : List Value := literals.elements.toOption.getD []

def enumRefusals (keywords : Entries) (form : LiteralForm) (value : Value) : List Reason :=
  match keywords.given? "enum" with
  | some literals =>
    if Value.jsonContains (candidates literals) value then []
    else [.enum form (candidates literals)]
  | none => []

lemma constReasons_eq_ok {keywords : Entries} {form : LiteralForm} {value : Value}
    {reasons : List Reason} (h : constReasons keywords form value = .ok reasons) :
    reasons = constRefusals keywords form value := by
  unfold constReasons at h
  unfold constRefusals
  cases hl : keywords.defined? "const" with
  | some literal =>
    simp only [hl] at h
    rw [reportIf_eq_ok h]
    cases hv : Value.jsonEqual value literal <;> simp [hv]
  | none =>
    simp only [hl] at h
    cases h
    rfl

lemma enumReasons_eq_ok {keywords : Entries} {form : LiteralForm} {value : Value}
    {reasons : List Reason} (h : enumReasons keywords form value = .ok reasons) :
    reasons = enumRefusals keywords form value := by
  unfold enumReasons whenGiven at h
  unfold enumRefusals
  cases hl : keywords.given? "enum" with
  | some literals =>
    simp only [hl] at h
    obtain ⟨listed, he, h⟩ := except_bind_eq_ok.1 h
    have hc : candidates literals = listed := by simp [candidates, he, Except.toOption]
    rw [reportIf_eq_ok h]
    cases hv : Value.jsonContains listed value <;> simp [hc, hv]
  | none =>
    simp only [hl] at h
    cases h
    rfl

/-- Why a value is refused for its type, `const` and `enum`. -/
def guardRefusals (keywords : Entries) (expected : JsonType) (form : LiteralForm) (value : Value) :
    List Reason :=
  typeReasons expected value ++ constRefusals keywords form value
    ++ enumRefusals keywords form value

lemma guardReasons_eq_ok {keywords : Entries} {expected : JsonType} {form : LiteralForm}
    {value : Value} {reasons : List Reason}
    (h : guardReasons keywords expected form value = .ok reasons) :
    reasons = guardRefusals keywords expected form value := by
  unfold guardReasons at h
  obtain ⟨const, hc, h⟩ := except_bind_eq_ok.1 h
  obtain ⟨enum, he, h⟩ := except_bind_eq_ok.1 h
  cases h
  rw [constReasons_eq_ok hc, enumReasons_eq_ok he, guardRefusals]

/-! ### Patterns -/

def matchesPattern (pattern : Value) (text : Text) : Bool :=
  match pattern with
  | .string source =>
    match Regex.Pattern.parse source with
    | .ok r => r.occursIn text
    | .error _ => false
  | _ => false

lemma patternOccurs_eq_ok {pattern : Value} {text : Text} {location : Location} {b : Bool}
    (h : patternOccurs pattern text location = .ok b) :
    pattern.isString = true ∧ matchesPattern pattern text = b := by
  unfold patternOccurs at h
  split at h
  · refine ⟨rfl, ?_⟩
    simp only [matchesPattern]
    split at h <;> rename_i hp <;> cases h
    rw [hp]
  · simp only [bytesPattern] at h
    split at h
    · split at h <;> cases h
    · cases h
  · cases h

/-! ### Required members and counts -/

def requiredNames (keywords : Entries) : List Value :=
  match (keywords.named? "required").filter Value.isTruthy with
  | some names => names.elements.toOption.getD []
  | none => []

def hasDefined (members : Entries) (name : Value) : Bool :=
  List.any members fun e => !e.2.isUndefined && Value.same e.1 name

/-- The required names without a defined member, in the order in which they are listed. -/
def missingRequired (keywords members : Entries) : List Value :=
  (requiredNames keywords).filter fun name => !hasDefined members name

def requiredRefusals (keywords members : Entries) : List Reason :=
  if missingRequired keywords members = [] then []
  else [.missing ((missingRequired keywords members).map Value.text)]

def countRefusals (keywords members : Entries) : List Reason :=
  (match (keywords.named? "minProperties").filter Value.isTruthy with
    | some bound =>
      if bound.asNumber?.any (Number.lt (.int members.length)) then [.fewerProperties bound]
      else []
    | none => [])
  ++ (match keywords.given? "maxProperties" with
    | some bound =>
      if bound.asNumber?.any (Number.lt · (.int members.length)) then [.moreProperties bound]
      else []
    | none => [])

lemma any_definedKeys (members : Entries) (name : Value) :
    (definedKeys members).any (fun k => Value.same k name) = hasDefined members name := by
  simp [definedKeys, hasDefined, List.any_map, List.any_filter, Function.comp_def]

lemma missingNames_eq_ok {members : Entries} {names missing : List Value}
    (h : missingNames (definedKeys members) names = .ok missing) :
    missing = names.filter fun name => !hasDefined members name := by
  induction names generalizing missing with
  | nil => cases h; rfl
  | cons name rest ih =>
    unfold missingNames at h
    split at h
    · cases h
    · obtain ⟨later, hl, h⟩ := except_bind_eq_ok.1 h
      cases h
      rw [any_definedKeys, ih hl, List.filter_cons]
      cases hasDefined members name <;> rfl

lemma listedNames_eq_ok {names : List Value} {texts : List Text}
    (h : listedNames names = .ok texts) : texts = names.map Value.text := by
  induction names generalizing texts with
  | nil => cases h; rfl
  | cons name rest ih =>
    unfold listedNames at h
    split at h
    · rename_i heq
      cases heq
    · rename_i heq
      cases heq
      obtain ⟨later, hl, h⟩ := except_bind_eq_ok.1 h
      cases h
      rw [ih hl]
      rfl
    · cases h

lemma requiredReasons_eq_ok {keywords members : Entries} {reasons : List Reason}
    (h : requiredReasons keywords members = .ok reasons) :
    reasons = requiredRefusals keywords members := by
  have hm : ∀ missing, missing = missingRequired keywords members →
      (if missing.isEmpty then (return []) else do return [.missing (← listedNames missing)]) =
        (.ok reasons : Reasons) → reasons = requiredRefusals keywords members := by
    rintro missing rfl h
    unfold requiredRefusals
    split at h
    · rename_i he
      cases h
      rw [if_pos (by simpa using he)]
    · rename_i he
      obtain ⟨texts, ht, h⟩ := except_bind_eq_ok.1 h
      cases h
      rw [if_neg (by simpa using he), listedNames_eq_ok ht]
  unfold requiredReasons at h
  split at h
  · rename_i hr
    refine hm [] ?_ h
    simp [missingRequired, requiredNames, hr]
  · rename_i names hr
    obtain ⟨listed, hl, h⟩ := except_bind_eq_ok.1 h
    obtain ⟨missing, hf, h⟩ := except_bind_eq_ok.1 h
    refine hm missing ?_ h
    rw [missingNames_eq_ok hf, missingRequired, requiredNames, hr]
    simp [hl, Except.toOption]

lemma comparable_eq_ok {v : Value} {x : Number} (h : v.comparable = .ok x) :
    v.asNumber? = some x := by
  unfold Value.comparable at h
  split at h <;> cases h
  assumption

lemma countReasons_eq_ok {keywords members : Entries} {fewer more : List Reason}
    (hf : minCountReasons keywords members = .ok fewer)
    (hm : maxCountReasons keywords members = .ok more) :
    fewer ++ more = countRefusals keywords members := by
  unfold countRefusals
  congr 1
  · unfold minCountReasons at hf
    cases hb : (keywords.named? "minProperties").filter Value.isTruthy with
    | none =>
      simp only [hb] at hf
      cases hf
      rfl
    | some bound =>
      simp only [hb] at hf
      obtain ⟨x, hx, hf⟩ := except_bind_eq_ok.1 hf
      rw [reportIf_eq_ok hf]
      simp [comparable_eq_ok hx]
  · unfold maxCountReasons whenGiven at hm
    cases hb : keywords.given? "maxProperties" with
    | some bound =>
      simp only [hb] at hm
      obtain ⟨x, hx, hm⟩ := except_bind_eq_ok.1 hm
      rw [reportIf_eq_ok hm]
      simp [comparable_eq_ok hx]
    | none =>
      simp only [hb] at hm
      cases hm
      rfl

end Validation

end JsonSchema
