import JsonSchema.Proofs.Content.Alike
import JsonSchema.Proofs.Object.Settled

/-!
Checks of alike values by alike keywords.

Both end in a fault, or both find something to refuse, or both find nothing. What they find may be
told in other words, and the faults may differ, but neither decides on a verdict.
-/

namespace JsonSchema.Validation

open Value

/-- Both checks end in a fault, or both find something, or both find nothing. -/
abbrev ReasonsAgree (x y : Reasons) : Prop :=
  Related (fun _ _ => True) (fun rs ts : List Reason => rs = [] ↔ ts = []) x y

lemma reasonsAgree_nil : ReasonsAgree (.ok []) (.ok []) := .ok Iff.rfl

lemma reasonsAgree_reportIf {failed failed' : Bool} {reason reason' : Reason}
    (hf : failed = failed') (hr : reason.canShow = reason'.canShow) :
    ReasonsAgree (reportIf failed reason) (reportIf failed' reason') := by
  subst hf
  unfold reportIf
  rw [hr]
  cases failed with
  | false => exact reasonsAgree_nil
  | true =>
    cases reason'.canShow with
    | false => exact .error trivial
    | true => exact .ok (by simp)

/-- Neither finds anything if no part does. -/
lemma nil_iff_append {rs rs' ts ts' : List Reason} (h : rs = [] ↔ rs' = [])
    (h' : ts = [] ↔ ts' = []) : rs ++ ts = [] ↔ rs' ++ ts' = [] := by
  rw [List.append_eq_nil_iff, List.append_eq_nil_iff, h, h']

section

variable {keywords keywords' : Entries} (h : keywords.Alike keywords')

include h

lemma reasonsAgree_whenGiven (name : String) {check check' : Value → Reasons}
    (hc : ∀ v w, Alike v w → ReasonsAgree (check v) (check' w)) :
    ReasonsAgree (whenGiven keywords name check) (whenGiven keywords' name check') := by
  unfold whenGiven
  rcases option_rel_iff.1 (h.given? name) with ⟨hv, hw⟩ | ⟨v, w, hv, hw, hvw⟩
  · rw [hv, hw]
    exact reasonsAgree_nil
  · rw [hv, hw]
    exact hc v w hvw

/-! ### Type and literals -/

lemma reasonsAgree_const (form : LiteralForm) {v w : Value} (hv : Alike v w) :
    ReasonsAgree (constReasons keywords form v) (constReasons keywords' form w) := by
  unfold constReasons
  rcases option_rel_iff.1 (h.defined? "const") with ⟨hl, hm⟩ | ⟨l, m, hl, hm, hlm⟩
  · rw [hl, hm]
    exact reasonsAgree_nil
  · rw [hl, hm]
    exact reasonsAgree_reportIf (by rw [jsonEqual_congr hv hlm]) (hlm.canShow_eq form)

lemma reasonsAgree_enum (form : LiteralForm) {v w : Value} (hv : Alike v w) :
    ReasonsAgree (enumReasons keywords form v) (enumReasons keywords' form w) := by
  refine reasonsAgree_whenGiven h "enum" fun l m hlm => hlm.elements.bind fun ls ms hmatched => ?_
  have hcontains : jsonContains ls v = jsonContains ms w :=
    hmatched.any_eq fun _ _ _ _ hc => jsonEqual_congr hc hv
  have hshow : ls.all form.canShow = ms.all form.canShow :=
    hmatched.all_eq fun _ _ _ _ hc => hc.canShow_eq form
  exact reasonsAgree_reportIf (by rw [hcontains]) hshow

lemma reasonsAgree_guard (expected : JsonType) (form : LiteralForm) {v w : Value}
    (hv : Alike v w) :
    ReasonsAgree (guardReasons keywords expected form v)
      (guardReasons keywords' expected form w) := by
  have htype : typeReasons expected v = typeReasons expected w := by
    simp only [typeReasons, mismatch?, hv.kindName_eq]
  refine (reasonsAgree_const h form hv).bind fun _ _ hconst => ?_
  refine (reasonsAgree_enum h form hv).bind fun _ _ henum => ?_
  rw [htype]
  exact .pure (nil_iff_append (nil_iff_append Iff.rfl hconst) henum)

/-! ### Strings -/

omit h in
lemma patternOccurs_agree {p q : Value} (h : Alike p q) (text : Text) (l m : Location) :
    Related (fun _ _ => True) Eq (patternOccurs p text l) (patternOccurs q text m) := by
  cases h.view with
  | string s =>
    simp only [patternOccurs]
    cases Regex.Pattern.parse s with
    | ok r => exact .ok rfl
    | error e => cases e <;> exact .error trivial
  | _ => exact .error trivial

/-- A check that compares with the number that a keyword holds. -/
lemma reasonsAgree_compare (name : String) {failed failed' : Number → Bool}
    {reason : Value → Reason} (hf : ∀ x y : Number, x.rank? = y.rank? → failed x = failed' y)
    (hr : ∀ v, (reason v).canShow = v.isWritable) :
    ReasonsAgree
      (whenGiven keywords name fun v => do reportIf (failed (← v.comparable)) (reason v))
      (whenGiven keywords' name fun v => do reportIf (failed' (← v.comparable)) (reason v)) := by
  refine reasonsAgree_whenGiven h name fun v w hvw => hvw.comparable.bind fun x y hxy => ?_
  exact reasonsAgree_reportIf (hf x y hxy) (by rw [hr, hr, hvw.isWritable_eq])

lemma reasonsAgree_text (text : Text) (l m : Location) :
    ReasonsAgree (textReasons keywords text l) (textReasons keywords' text m) := by
  have hshort : ReasonsAgree (minLengthReasons keywords text) (minLengthReasons keywords' text) :=
    reasonsAgree_compare h "minLength" (fun _ _ hxy => Number.compareBy_congr rfl hxy) fun _ => rfl
  have hlong : ReasonsAgree (maxLengthReasons keywords text) (maxLengthReasons keywords' text) :=
    reasonsAgree_compare h "maxLength" (fun _ _ hxy => Number.compareBy_congr hxy rfl) fun _ => rfl
  have hpattern : ReasonsAgree (patternReasons keywords text l)
      (patternReasons keywords' text m) := by
    refine reasonsAgree_whenGiven h "pattern" fun p q hpq => ?_
    refine (patternOccurs_agree hpq text _ _).bind fun _ _ hfound => ?_
    exact reasonsAgree_reportIf (by rw [hfound]) rfl
  refine hshort.bind fun _ _ hs => hlong.bind fun _ _ hl => hpattern.bind fun _ _ hp => ?_
  exact .pure (nil_iff_append (nil_iff_append hs hl) hp)

lemma reasonsAgree_string {v w : Value} (hv : Alike v w) (l m : Location) :
    ReasonsAgree (stringReasons keywords v l) (stringReasons keywords' w m) := by
  refine (reasonsAgree_guard h .string .quoted hv).bind fun _ _ hguard => ?_
  cases hv.view with
  | string s =>
    exact (reasonsAgree_text h s l m).bind fun _ _ ht => .pure (nil_iff_append hguard ht)
  | _ => exact .pure hguard

/-! ### Numbers -/

lemma reasonsAgree_magnitude (hm : keywords.named? "multipleOf" = none) {x y : Number}
    (hxy : x.rank? = y.rank?) :
    ReasonsAgree (magnitudeReasons keywords x) (magnitudeReasons keywords' y) := by
  have hbound : ∀ bound : Bound,
      ReasonsAgree (boundReasons keywords x bound) (boundReasons keywords' y bound) := by
    intro bound
    refine reasonsAgree_compare h bound.keyword (fun a b hab => ?_) fun _ => rfl
    cases bound <;> first
      | exact Number.compareBy_congr hxy hab
      | exact Number.compareBy_congr hab hxy
  have hmultiple : ReasonsAgree (multipleReasons keywords x) (multipleReasons keywords' y) := by
    have hm' : keywords'.named? "multipleOf" = none := by
      rcases option_rel_iff.1 (h.lookup (.string "multipleOf")) with ⟨-, hn⟩ | ⟨_, _, hs, -, -⟩
      · exact hn
      · rw [Entries.named?, hs] at hm
        cases hm
    unfold multipleReasons whenGiven Entries.given?
    rw [hm, hm']
    exact reasonsAgree_nil
  refine (hbound .minimum).bind fun _ _ h₁ => (hbound .exclusiveMinimum).bind fun _ _ h₂ => ?_
  refine (hbound .maximum).bind fun _ _ h₃ => (hbound .exclusiveMaximum).bind fun _ _ h₄ => ?_
  refine hmultiple.bind fun _ _ h₅ => ?_
  exact .pure (nil_iff_append (nil_iff_append (nil_iff_append (nil_iff_append h₁ h₂) h₃) h₄) h₅)

lemma reasonsAgree_number (hm : keywords.named? "multipleOf" = none) {v w : Value}
    (hv : Alike v w) : ReasonsAgree (numberReasons keywords v) (numberReasons keywords' w) := by
  refine (reasonsAgree_guard h .number .plain hv).bind fun _ _ hguard => ?_
  cases hv.view with
  | number hxy _ =>
    refine (reasonsAgree_magnitude h hm hxy).bind fun _ _ hr => ?_
    exact .pure (nil_iff_append hguard hr)
  | _ => exact .pure hguard

lemma reasonsAgree_integer (hm : keywords.named? "multipleOf" = none) {v w : Value}
    (hv : Alike v w) : ReasonsAgree (integerReasons keywords v) (integerReasons keywords' w) := by
  refine (reasonsAgree_number h hm hv).bind fun _ _ hreasons => ?_
  cases hv.view with
  | number hxy _ =>
    simp only [Number.isIntegral_congr hxy]
    split
    · exact .pure hreasons
    · exact .pure (by simp)
  | _ => exact .pure hreasons

/-! ### Members -/

/-- The members of a keyword that maps names to schemas. -/
lemma children_agree (name : String) :
    Related (fun _ _ => True) Entries.Alike (keywords.children name) (keywords'.children name) := by
  unfold Entries.children
  rcases option_rel_iff.1 (h.lookup (.string name)) with ⟨hv, hw⟩ | ⟨v, w, hv, hw, hvw⟩
  · rw [Entries.named?, Entries.named?, hv, hw]
    exact .ok Entries.alike_nil
  · rw [Entries.named?, Entries.named?, hv, hw]
    simp only [hvw.isTruthy_eq]
    split
    · exact .ok Entries.alike_nil
    · cases hvw.view with
      | object hes => exact .ok hes
      | _ => exact .error trivial

variable {members members' : Entries} (hm : members.Alike members')

omit h in
include hm in
lemma hasDefined_eq (name : Value) : hasDefined members name = hasDefined members' name :=
  hm.matched.any_eq fun e _ f _ hef => by rw [hef.1, hef.2.isUndefined_eq]

include hm

lemma reasonsAgree_required :
    ReasonsAgree (requiredReasons keywords members) (requiredReasons keywords' members') := by
  unfold requiredReasons
  rcases option_rel_iff.1 (h.truthy? "required") with ⟨hv, hw⟩ | ⟨v, w, hv, hw, hvw⟩
  · rw [hv, hw]
    exact reasonsAgree_nil
  · rw [hv, hw]
    refine hvw.elements.bind (f := missingReasons members) (g := missingReasons members')
      fun ls ms hmatched => .of_hasAnswer ?_ fun rs ts hr ht => ?_
    · rw [hasAnswer_missing_iff hm.left.stringKeys, hasAnswer_missing_iff hm.right.stringKeys]
      exact hmatched.forall_iff fun n _ k _ hnk => by cases hnk.view <;> simp [isString]
    · have hstrings := (hasAnswer_missing_iff hm.left.stringKeys).1 ⟨_, hr⟩
      have hrs : rs = [] ↔ missingReasons members ls = .ok [] := by rw [hr, Except.ok.injEq]
      have hts : ts = [] ↔ missingReasons members' ms = .ok [] := by rw [ht, Except.ok.injEq]
      rw [hrs, hts, missingReasons_eq_nil, missingReasons_eq_nil]
      refine hmatched.forall_iff fun n hn k _ hnk => ?_
      obtain ⟨s, rfl⟩ := isString_iff.1 (hstrings n hn)
      cases hnk.view
      rw [hasDefined_eq hm]

lemma reasonsAgree_minCount :
    ReasonsAgree (minCountReasons keywords members) (minCountReasons keywords' members') := by
  unfold minCountReasons
  rcases option_rel_iff.1 (h.truthy? "minProperties") with ⟨hv, hw⟩ | ⟨v, w, hv, hw, hvw⟩
  · rw [hv, hw]
    exact reasonsAgree_nil
  · rw [hv, hw, hm.length_eq]
    refine hvw.comparable.bind fun x y hxy => ?_
    exact reasonsAgree_reportIf (Number.compareBy_congr rfl hxy) hvw.isWritable_eq

lemma reasonsAgree_maxCount :
    ReasonsAgree (maxCountReasons keywords members) (maxCountReasons keywords' members') := by
  unfold maxCountReasons
  rw [hm.length_eq]
  exact reasonsAgree_compare h "maxProperties" (fun _ _ hxy => Number.compareBy_congr hxy rfl)
    fun _ => rfl

end

end JsonSchema.Validation
