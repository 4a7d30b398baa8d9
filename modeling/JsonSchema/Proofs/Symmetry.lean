import JsonSchema.Proofs.Content.Alike
import JsonSchema.Proofs.SameKey

/-!
Equality of JSON content is symmetric.

This holds of all values as programs hold them: the keys of their objects and the members of their
sets may be keys, and no two of them are the same. The definition does not treat its two sides
alike: the members of the left object are looked up in the right one, and so are the members of
the left set.
-/

namespace JsonSchema

/-- Where no two elements of a list find the same one in another list, which is no longer, every
element of that other list is found. -/
lemma exists_of_length_le {α β : Type} {found : α → β → Prop} {xs : List α} {ys : List β}
    (hd : xs.Pairwise fun x x' => ∀ y, found x y → ¬found x' y) (hlength : ys.length ≤ xs.length)
    (h : ∀ x ∈ xs, ∃ y ∈ ys, found x y) : ∀ y ∈ ys, ∃ x ∈ xs, found x y := by
  induction xs generalizing ys with
  | nil =>
    obtain rfl : ys = [] := List.eq_nil_of_length_eq_zero (Nat.le_zero.1 hlength)
    exact nofun
  | cons x xs ih =>
    obtain ⟨hx, hd⟩ := List.pairwise_cons.1 hd
    obtain ⟨⟨y, hy, hxy⟩, h⟩ := List.forall_mem_cons.1 h
    obtain ⟨before, after, rfl⟩ := List.append_of_mem hy
    -- the others find theirs among what is left without the one that the first finds
    have hothers : ∀ x' ∈ xs, ∃ y' ∈ before ++ after, found x' y' := by
      intro x' hx'
      obtain ⟨y', hy', hfound⟩ := h x' hx'
      have hne : y' ≠ y := by
        rintro rfl
        exact hx x' hx' y' hxy hfound
      exact ⟨y', by simpa [hne] using hy', hfound⟩
    have hfound := ih hd (by simp at hlength ⊢; omega) hothers
    intro z hz
    by_cases hzy : z = y
    · exact ⟨x, by simp, hzy ▸ hxy⟩
    · obtain ⟨x', hx', hxz⟩ := hfound z (by simpa [hzy] using hz)
      exact ⟨x', by simp [hx'], hxz⟩

lemma Number.eq_symm {x y : Number} (h : Number.eq x y = true) : Number.eq y x = true := by
  rw [Number.eq_iff] at h ⊢
  exact ⟨h.1.symm, by rw [Number.isNaN_eq, ← h.1, ← Number.isNaN_eq, h.2]⟩

namespace Value

/-- An object or a set whose keys or members may be keys, all of them different, or any other
value. -/
def isWellKeyed : Value → Bool
  | set members =>
    members.all isKey && decide (members.Pairwise fun v w => same v w = false)
  | v => v.isKeyed

lemma sameMembers_iff {xs ys : List Value} :
    sameMembers xs ys = true ↔ ∀ x ∈ xs, ∃ y ∈ ys, same x y = true := by
  induction xs with
  | nil => simp [sameMembers]
  | cons x xs ih => simp [sameMembers, ih]

/-! ### Sets -/

lemma same_set_symm {xs ys : List Value} (hx : (set xs).isWellKeyed = true)
    (h : same (set xs) (set ys) = true) : same (set ys) (set xs) = true := by
  simp only [isWellKeyed, Bool.and_eq_true, List.all_eq_true, decide_eq_true_eq] at hx
  simp only [same, Bool.and_eq_true, beq_iff_eq, sameMembers_iff] at h ⊢
  obtain ⟨hkeys, hd⟩ := hx
  obtain ⟨hlength, h⟩ := h
  -- two members that are the same as a third would be the same
  have hapart : xs.Pairwise fun x x' => ∀ y, same x y = true → ¬same x' y = true := by
    refine hd.imp_of_mem fun {x x'} hx hx' hne y hxy hxy' => ?_
    have hyx' := same_symm (hkeys x' hx') hxy'
    rw [same_trans (hkeys x hx) (isKey_of_same (hkeys x hx) hxy) hxy hyx'] at hne
    cases hne
  refine ⟨hlength.symm, fun y hy => ?_⟩
  obtain ⟨x, hm, hxy⟩ := exists_of_length_le hapart (Nat.le_of_eq hlength.symm) h y hy
  exact ⟨x, hm, same_symm (hkeys x hm) hxy⟩

/-! ### Objects -/

lemma isKeyed_of_isWellKeyed {entries : Entries} (h : (object entries).isWellKeyed = true) :
    entries.IsKeyed := by
  simp only [isWellKeyed, isKeyed, Bool.and_eq_true, List.all_eq_true, decide_eq_true_eq] at h
  exact ⟨h.1, h.2⟩

/-- Of two equal objects the right one has the members of the left one, and no others. -/
lemma jsonEqual_object_symm {es fs : Entries} (he : es.IsKeyed) (hf : fs.IsKeyed)
    (h : jsonEqual (object es) (object fs) = true)
    (hvalues : ∀ e ∈ es, ∀ f ∈ fs, jsonEqual e.2 f.2 = true → jsonEqual f.2 e.2 = true) :
    jsonEqual (object fs) (object es) = true := by
  simp only [jsonEqual, Bool.and_eq_true, beq_iff_eq, List.all_eq_true, jsonEqualEntries_iff,
    Entries.contains, List.any_eq_true] at h ⊢
  obtain ⟨⟨hlength, hkeys⟩, hlookup⟩ := h
  refine ⟨⟨hlength.symm, fun e hm => ?_⟩, fun f hm => ?_⟩
  · obtain ⟨w, hw, -⟩ := hlookup e hm
    obtain ⟨k, hk, hsame⟩ := Entries.mem_of_get? hw
    exact ⟨(k, w), hk, hsame⟩
  · obtain ⟨e, hme, hsame⟩ := hkeys f hm
    obtain ⟨w, hw, heq⟩ := hlookup e hme
    rw [hf.get?_of_same hm (he.keys e hme) (same_symm (he.keys e hme) hsame)] at hw
    cases hw
    exact ⟨e.2, he.get?_of_same hme (hf.keys f hm) hsame, hvalues e hme f hm heq⟩

/-! ### All values -/

/-- **Equality of JSON content is symmetric.** -/
theorem jsonEqual_symm {v w : Value} (hv : v.everyPart isWellKeyed = true)
    (hw : w.everyPart isWellKeyed = true) (h : jsonEqual v w = true) : jsonEqual w v = true := by
  induction v using Value.induction_on generalizing w with
  | leaf v hd =>
    cases v with
    | array | object | set => cases hd
    | number x =>
      cases w <;> simp only [jsonEqual, Bool.false_eq_true] at h
      exact Number.eq_symm h
    | datetime t =>
      cases w <;> simp only [jsonEqual, Bool.false_eq_true] at h
      exact DateTime.sameInstant_symm h
    | undefined | null => cases w <;> exact h
    | _ =>
      cases w <;> simp only [jsonEqual, Bool.false_eq_true, beq_iff_eq] at h
      subst h
      simp [jsonEqual]
  | array k xs ih =>
    cases w with
    | array l ys =>
      simp only [jsonEqual, jsonEqualItems_iff] at h ⊢
      refine List.Forall₂.flip ((forall₂_mem h).imp fun v w hvw => ?_)
      exact ih v hvw.1 (everyPart_of_item hv v hvw.1) (everyPart_of_item hw w hvw.2.1) hvw.2.2
    | _ => cases h
  | object es ih =>
    cases w with
    | object fs =>
      refine jsonEqual_object_symm (isKeyed_of_isWellKeyed (everyPart_self hv))
        (isKeyed_of_isWellKeyed (everyPart_self hw)) h fun e he f hf heq => ?_
      exact ih e he (everyPart_of_entry hv e he).2 (everyPart_of_entry hw f hf).2 heq
    | _ => cases h
  | set xs _ =>
    cases w with
    | set ys =>
      simp only [jsonEqual] at h ⊢
      exact same_set_symm (everyPart_self hv) h
    | _ => cases h

end Value

end JsonSchema
