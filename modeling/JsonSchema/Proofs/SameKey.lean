import JsonSchema.Proofs.Number
import JsonSchema.Proofs.Part
import JsonSchema.Proofs.Related

/-!
Values that may be keys: to be the same key is symmetric and transitive.

Sets and objects are no keys, so only tuples nest. Objects whose keys are keys, all different, are
what programs hold; there an entry is determined by its key.
-/

namespace JsonSchema

lemma DateTime.sameInstant_symm {t u : DateTime} (h : t.sameInstant u = true) :
    u.sameInstant t = true := by
  simp only [sameInstant, Bool.and_eq_true, beq_iff_eq] at h ⊢
  exact ⟨h.1.symm, h.2.symm⟩

namespace Value

lemma areKeys_iff {items : List Value} :
    areKeys items = true ↔ ∀ v ∈ items, v.isKey = true := by
  induction items with
  | nil => simp [areKeys]
  | cons v rest ih => simp [areKeys, ih]

lemma sameItems_iff {xs ys : List Value} :
    sameItems xs ys = true ↔ List.Forall₂ (fun v w => same v w = true) xs ys := by
  induction xs generalizing ys with
  | nil => cases ys <;> simp [sameItems]
  | cons x xs ih => cases ys <;> simp [sameItems, ih]

/-- Numbers are the same keys if they have the same place, or both have none. -/
lemma same_number {x y : Number} :
    same (number x) (number y) = true ↔ x.rank? = y.rank? := by
  have hsame : same (number x) (number y) = (x.isNaN && y.isNaN || Number.eq x y) := by
    cases x with
    | int n => simp [same, Number.isNaN]
    | double d =>
      cases d with
      | nan =>
        cases y with
        | int m => simp [same, Number.isNaN]
        | double e => cases e <;> simp [same, Number.isNaN, Double.isNaN]
      | _ => simp [same, Number.isNaN, Double.isNaN]
  rw [hsame, Bool.or_eq_true, Bool.and_eq_true, Number.eq_iff, Number.isNaN_eq, Number.isNaN_eq]
  cases x.rank? <;> cases y.rank? <;> simp

/-- Booleans are the same keys as zero and one. -/
lemma same_of_asNumber? {v w : Value} {x y : Number} (hv : v.asNumber? = some x)
    (hw : w.asNumber? = some y) : same v w = true ↔ x.rank? = y.rank? := by
  cases v with
  | bool a =>
    cases hv
    cases w with
    | bool b =>
      cases hw
      cases a <;> cases b <;> decide +kernel
    | number y =>
      cases hw
      rw [same, Number.eq_iff]
      exact and_iff_left rfl
    | _ => cases hw
  | number x =>
    cases hv
    cases w with
    | bool b =>
      cases hw
      rw [same, Number.eq_iff]
      refine and_iff_left_of_imp fun h => ?_
      rw [Number.isNaN_eq, h]
      rfl
    | number y =>
      cases hw
      exact same_number
    | _ => cases hw
  | _ => cases hv

/-- The ways in which a key is the same as another value. -/
inductive SameView : Value → Value → Prop where
  | undefined : SameView undefined undefined
  | null : SameView null null
  | number {v w : Value} {x y : Number} (hv : v.asNumber? = some x) (hw : w.asNumber? = some y)
    (h : x.rank? = y.rank?) : SameView v w
  | string (s : Text) : SameView (string s) (string s)
  | tuple {xs ys : List Value} (h : List.Forall₂ (fun v w => same v w = true) xs ys) :
    SameView (array .tuple xs) (array .tuple ys)
  | date (d : Date) : SameView (date d) (date d)
  | datetime {t u : DateTime} (h : t.sameInstant u = true) : SameView (datetime t) (datetime u)
  | bytes (bs : List UInt8) : SameView (bytes bs) (bytes bs)

lemma same_view {v w : Value} (hv : v.isKey = true) (h : same v w = true) : SameView v w := by
  have hnumber : ∀ {x y}, v.asNumber? = some x → w.asNumber? = some y → SameView v w :=
    fun hx hy => .number hx hy ((same_of_asNumber? hx hy).1 h)
  cases v with
  | undefined => cases w <;> first | exact .undefined | simp [same] at h
  | null => cases w <;> first | exact .null | simp [same] at h
  | bool b => cases w <;> first | exact hnumber rfl rfl | simp [same] at h
  | number x => cases w <;> first | exact hnumber rfl rfl | simp [same] at h
  | string s =>
    obtain rfl := string_same.1 h
    exact .string s
  | array k xs =>
    cases k with
    | list => cases hv
    | tuple =>
      cases w with
      | array l ys =>
        simp only [same, Bool.and_eq_true, beq_iff_eq, sameItems_iff] at h
        obtain ⟨rfl, h⟩ := h
        exact .tuple h
      | _ => simp [same] at h
  | date d =>
    cases w <;> simp only [same, Bool.false_eq_true, beq_iff_eq] at h
    exact h ▸ .date d
  | datetime t =>
    cases w <;> simp only [same, Bool.false_eq_true] at h
    exact .datetime h
  | bytes bs =>
    cases w <;> simp only [same, Bool.false_eq_true, beq_iff_eq] at h
    exact h ▸ .bytes bs
  | object | set => cases hv

lemma same_tuple {xs ys : List Value} : same (array .tuple xs) (array .tuple ys) = true ↔
    List.Forall₂ (fun v w => same v w = true) xs ys := by
  simp [same, sameItems_iff]

lemma isKey_of_mem {items : List Value} (h : (array .tuple items).isKey = true) :
    ∀ v ∈ items, v.isKey = true :=
  areKeys_iff.1 h

lemma same_symm {v w : Value} (hv : v.isKey = true) (h : same v w = true) : same w v = true := by
  induction v using Value.induction_on generalizing w with
  | leaf v hd =>
    cases same_view hv h with
    | number hx hy hr => exact (same_of_asNumber? hy hx).2 hr.symm
    | datetime ht =>
      simp only [same]
      exact DateTime.sameInstant_symm ht
    | tuple => cases hd
    | _ => exact h
  | array k xs ih =>
    cases same_view hv h with
    | tuple hxs =>
      have hkeys := (List.forall₂_and_left _ _).2 ⟨isKey_of_mem hv, hxs⟩
      have hboth := (List.forall₂_and_left _ _).2 ⟨fun v hm => @ih v hm, hkeys⟩
      exact same_tuple.2 (List.Forall₂.flip (hboth.imp fun v w h => h.1 h.2.1 h.2.2))
    | number hx => cases hx
  | object => cases hv
  | set => cases hv

lemma same_trans {u v w : Value} (hu : u.isKey = true) (hv : v.isKey = true)
    (h : same u v = true) (h' : same v w = true) : same u w = true := by
  induction u using Value.induction_on generalizing v w with
  | leaf u hd =>
    cases same_view hu h with
    | number hx hy hr =>
      cases same_view hv h' with
      | number hy' hz hr' =>
        obtain rfl := Option.some.inj (hy.symm.trans hy')
        exact (same_of_asNumber? hx hz).2 (hr.trans hr')
      | _ => cases hy
    | datetime ht =>
      cases same_view hv h' with
      | datetime ht' =>
        simp only [same, DateTime.sameInstant, Bool.and_eq_true, beq_iff_eq] at ht ht' ⊢
        exact ⟨ht.1.trans ht'.1, ht.2.trans ht'.2⟩
      | number hx => cases hx
    | tuple => cases hd
    | _ => exact h'
  | array k xs ih =>
    cases same_view hu h with
    | tuple hxs =>
      cases same_view hv h' with
      | tuple hys =>
        refine same_tuple.2 (forall₂_comp hxs hys fun x hx y hy _ hxy hyz => ?_)
        exact ih x hx (isKey_of_mem hu x hx) (isKey_of_mem hv y hy) hxy hyz
      | number hx => cases hx
    | number hx => cases hx
  | object => cases hu
  | set => cases hu

/-- What is the same as a key is a key. -/
lemma isKey_of_same {v w : Value} (hv : v.isKey = true) (h : same v w = true) :
    w.isKey = true := by
  induction v using Value.induction_on generalizing w with
  | leaf v hd =>
    cases same_view hv h with
    | number hx hy _ => cases w <;> first | rfl | cases hy
    | tuple => cases hd
    | _ => rfl
  | array k xs ih =>
    cases same_view hv h with
    | number hx => cases hx
    | tuple hxs =>
      refine areKeys_iff.2 fun w hw => ?_
      obtain ⟨v, hm, hsame⟩ := (Matched.of_forall₂ hxs).right w hw
      exact ih v hm (isKey_of_mem hv v hm) hsame
  | object => cases hv
  | set => cases hv

end Value

/-! ### Objects -/

/-- Keys that may be keys, all of them different. -/
structure Entries.IsKeyed (entries : Entries) : Prop where
  keys : ∀ e ∈ entries, e.1.isKey = true
  distinctKeys : entries.HasDistinctKeys

namespace Entries.IsKeyed

lemma tail {e : Value × Value} {rest : Entries} (h : Entries.IsKeyed (e :: rest)) :
    rest.IsKeyed :=
  ⟨fun f hf => h.keys f (List.mem_cons_of_mem _ hf), (List.pairwise_cons.1 h.distinctKeys).2⟩

lemma same_head {e : Value × Value} {rest : Entries} (h : Entries.IsKeyed (e :: rest))
    {f : Value × Value} (hf : f ∈ rest) : Value.same e.1 f.1 = false :=
  (List.pairwise_cons.1 h.distinctKeys).1 f hf

variable {entries : Entries} (h : entries.IsKeyed)

include h

lemma eq_of_same {e f : Value × Value} (he : e ∈ entries) (hf : f ∈ entries)
    (hs : Value.same e.1 f.1 = true) : e = f := by
  obtain ⟨hkeys, hd⟩ := h
  induction entries with
  | nil => cases he
  | cons g rest ih =>
    obtain ⟨hne, hd⟩ := List.pairwise_cons.1 hd
    rcases List.mem_cons.1 he with rfl | he'
    · rcases List.mem_cons.1 hf with rfl | hf'
      · rfl
      · simp [hne f hf'] at hs
    · rcases List.mem_cons.1 hf with rfl | hf'
      · have hback := Value.same_symm (hkeys e he) hs
        simp [hne e he'] at hback
      · exact ih he' hf' (fun e he => hkeys e (List.mem_cons_of_mem _ he)) hd

lemma clear : entries.HasClearKeys := fun _ he _ hf hs => by rw [h.eq_of_same hf he hs]

/-- The entry that is found under a key is the one whose key is the same. -/
lemma get?_of_same {e : Value × Value} {key : Value} (he : e ∈ entries) (hk : key.isKey = true)
    (hs : Value.same e.1 key = true) : entries.get? key = some e.2 := by
  cases hg : entries.get? key with
  | none => simp [get?_eq_none.1 hg e he] at hs
  | some v =>
    obtain ⟨k, hm, hsame⟩ := mem_of_get? hg
    have hback := Value.same_symm (h.keys e he) hs
    have heq := h.eq_of_same hm he (Value.same_trans (h.keys _ hm) hk hsame hback)
    rw [← heq]

lemma get_of_same {e : Value × Value} {key : Value} (he : e ∈ entries) (hk : key.isKey = true)
    (hs : Value.same e.1 key = true) : entries.get key = e.2 := by
  rw [get, h.get?_of_same he hk hs]
  rfl

end Entries.IsKeyed

namespace Value

/-- An object whose keys may be keys, all of them different, or no object. -/
def isKeyed : Value → Bool
  | object entries => (entries.all fun e => e.1.isKey) && decide (Entries.HasDistinctKeys entries)
  | _ => true

lemma isKeyed_object {entries : Entries} (h : (object entries).everyPart isKeyed = true) :
    entries.IsKeyed := by
  have hself := everyPart_self h
  simp only [isKeyed, Bool.and_eq_true, List.all_eq_true, decide_eq_true_eq] at hself
  exact ⟨hself.1, hself.2⟩

end Value

end JsonSchema
