import JsonSchema.Proofs.Insertion
import JsonSchema.Proofs.Number
import JsonSchema.Proofs.Part
import JsonSchema.Proofs.Related

/-!
Values with the same JSON content.

Two values are alike if both hold nothing but JSON and they are equal as JSON content: the order
of members does not count, and neither does the way in which a number is written. Objects are
alike if they have alike members under the same names, and everything else is alike part by part;
it follows that being alike is symmetric and transitive.
-/

namespace JsonSchema

namespace Value

/-- An object whose keys are strings, all different, or a value of a kind that JSON has. -/
def isPlainPart : Value → Bool
  | object entries =>
    decide (Entries.HasStringKeys entries) && decide (Entries.HasDistinctKeys entries)
  | date _ | datetime _ | bytes _ | set _ => false
  | _ => true

/-- Whether a value holds nothing but JSON, absent values aside. -/
def isPlain (v : Value) : Bool := v.everyPart isPlainPart

/-- Both hold nothing but JSON, and they have the same content. -/
structure Alike (v w : Value) : Prop where
  left : v.isPlain = true
  right : w.isPlain = true
  equal : jsonEqual v w = true

end Value

open Value

/-! ### Arrays and objects -/

structure Entries.IsPlain (entries : Entries) : Prop where
  stringKeys : entries.HasStringKeys
  distinctKeys : entries.HasDistinctKeys
  values : ∀ e ∈ entries, isPlain e.2 = true

/-- Alike members under the same names. -/
structure Entries.Alike (es fs : Entries) : Prop where
  left : es.IsPlain
  right : fs.IsPlain
  lookup : ∀ key, Option.Rel Value.Alike (es.get? key) (fs.get? key)

namespace Value

lemma isPlain_array {kind : ArrayKind} {items : List Value} :
    (array kind items).isPlain = true ↔ ∀ v ∈ items, v.isPlain = true := by
  simp only [isPlain, everyPart, isPlainPart, Bool.true_and, everyItem_iff]

lemma isPlain_string (s : Text) : (string s).isPlain = true := rfl

lemma isPlain_object {entries : Entries} :
    (object entries).isPlain = true ↔ entries.IsPlain := by
  simp only [isPlain, everyPart, isPlainPart, Bool.and_eq_true, decide_eq_true_eq, everyEntry_iff]
  constructor
  · rintro ⟨⟨hs, hd⟩, he⟩
    exact ⟨hs, hd, fun e h => (he e h).2⟩
  · rintro ⟨hs, hd, hv⟩
    refine ⟨⟨hs, hd⟩, fun e h => ⟨?_, hv e h⟩⟩
    obtain ⟨s, hk⟩ := isString_iff.1 (hs e h)
    rw [hk]
    exact isPlain_string s

lemma jsonEqualItems_iff {xs ys : List Value} :
    jsonEqualItems xs ys = true ↔ List.Forall₂ (fun v w => jsonEqual v w = true) xs ys := by
  induction xs generalizing ys with
  | nil => cases ys <;> simp [jsonEqualItems]
  | cons x xs ih => cases ys <;> simp [jsonEqualItems, ih]

lemma jsonEqualEntries_iff {es fs : Entries} :
    jsonEqualEntries es fs = true ↔
      ∀ e ∈ es, ∃ w, fs.get? e.1 = some w ∧ jsonEqual e.2 w = true := by
  induction es with
  | nil => simp [jsonEqualEntries]
  | cons e rest ih =>
    obtain ⟨k, v⟩ := e
    rw [List.forall_mem_cons, jsonEqualEntries, Bool.and_eq_true, ih]
    refine and_congr_left' ?_
    cases fs.get? k <;> simp

end Value

namespace Entries

lemma get?_eq_some_iff {entries : Entries} (h : entries.IsPlain) {key v : Value} :
    entries.get? key = some v ↔ (key, v) ∈ entries := by
  constructor
  · intro hv
    obtain ⟨k, hm, hk⟩ := mem_of_get? hv
    obtain ⟨s, rfl⟩ := isString_iff.1 (h.stringKeys _ hm)
    obtain rfl := string_same.1 hk
    exact hm
  · exact get?_of_mem h.distinctKeys

lemma mem_keys_iff {entries : Entries} (h : entries.IsPlain) {key : Value} :
    key ∈ entries.keys ↔ (entries.get? key).isSome = true := by
  simp [Entries.keys, Option.isSome_iff_exists, get?_eq_some_iff h]

lemma nodup_keys {entries : Entries} (h : entries.HasDistinctKeys) : entries.keys.Nodup := by
  refine List.pairwise_map.2 (h.imp ?_)
  intro e f hne heq
  rw [heq, same_self] at hne
  cases hne

lemma distinctKeys_of_nodup {entries : Entries} (hs : entries.HasStringKeys)
    (h : entries.keys.Nodup) : entries.HasDistinctKeys := by
  refine (List.pairwise_map.1 h).imp_of_mem fun {e f} _ hf hne => ?_
  rw [← Bool.not_eq_true, same_of_isString (hs f hf)]
  exact hne

/-- Where the names are the same, in any order, members are found together. -/
lemma rel_get? {es fs : Entries} (he : es.IsPlain) (hf : fs.IsPlain)
    (hkeys : es.keys.Perm fs.keys) {related : Value → Value → Prop}
    (h : ∀ key v w, (key, v) ∈ es → (key, w) ∈ fs → related v w) (key : Value) :
    Option.Rel related (es.get? key) (fs.get? key) := by
  have hsome : (es.get? key).isSome = true ↔ (fs.get? key).isSome = true := by
    rw [← mem_keys_iff he, ← mem_keys_iff hf, hkeys.mem_iff]
  cases hk : es.get? key with
  | none =>
    cases hl : fs.get? key with
    | none => exact .none
    | some w => simp [hk, hl] at hsome
  | some v =>
    cases hl : fs.get? key with
    | none => simp [hk, hl] at hsome
    | some w =>
      exact .some (h key v w ((get?_eq_some_iff he).1 hk) ((get?_eq_some_iff hf).1 hl))

/-- Objects are equal if and only if they have equal members under the same names. -/
lemma jsonEqual_iff {es fs : Entries} (he : es.IsPlain) (hf : fs.IsPlain) :
    jsonEqual (object es) (object fs) = true ↔
      ∀ key, Option.Rel (fun v w => jsonEqual v w = true) (es.get? key) (fs.get? key) := by
  simp only [jsonEqual, Bool.and_eq_true, beq_iff_eq, List.all_eq_true, jsonEqualEntries_iff]
  constructor
  · rintro ⟨⟨-, hkeys⟩, hvalues⟩ key
    cases hk : es.get? key with
    | some v =>
      obtain ⟨w, hw, heq⟩ := hvalues _ ((get?_eq_some_iff he).1 hk)
      rw [hw]
      exact .some heq
    | none =>
      cases hl : fs.get? key with
      | none => exact .none
      | some w =>
        have hc := hkeys _ ((get?_eq_some_iff hf).1 hl)
        obtain ⟨e, hm, hsame⟩ := List.any_eq_true.1 hc
        simp [get?_eq_none.1 hk e hm] at hsame
  · intro hrel
    have hsome : ∀ key, (es.get? key).isSome = (fs.get? key).isSome := by
      intro key
      rcases option_rel_iff.1 (hrel key) with ⟨h, h'⟩ | ⟨_, _, h, h', -⟩ <;> simp [h, h']
    have hperm : es.keys.Perm fs.keys :=
      (List.perm_ext_iff_of_nodup (nodup_keys he.distinctKeys) (nodup_keys hf.distinctKeys)).2
        fun key => by rw [mem_keys_iff he, mem_keys_iff hf, hsome]
    refine ⟨⟨?_, ?_⟩, ?_⟩
    · simpa [Entries.keys] using hperm.length_eq
    · intro f hm
      have hkey := hperm.mem_iff.2 (List.mem_map_of_mem hm)
      obtain ⟨e, he, hk⟩ := List.mem_map.1 hkey
      exact List.any_eq_true.2 ⟨e, he, hk ▸ same_self _⟩
    · intro e hm
      rcases option_rel_iff.1 (hrel e.1) with ⟨h, -⟩ | ⟨v, w, hv, hw, heq⟩
      · simp [get?_of_mem he.distinctKeys hm] at h
      · rw [get?_of_mem he.distinctKeys hm] at hv
        cases hv
        exact ⟨w, hw, heq⟩

end Entries

/-! ### Alike part by part -/

namespace Value

lemma alike_array {k l : ArrayKind} {xs ys : List Value} :
    Alike (array k xs) (array l ys) ↔ List.Forall₂ Alike xs ys := by
  constructor
  · rintro ⟨hx, hy, heq⟩
    rw [isPlain_array] at hx hy
    simp only [jsonEqual, jsonEqualItems_iff] at heq
    induction heq with
    | nil => exact .nil
    | cons h _ ih =>
      rw [List.forall_mem_cons] at hx hy
      exact .cons ⟨hx.1, hy.1, h⟩ (ih hx.2 hy.2)
  · intro h
    have hmatched := Matched.of_forall₂ h
    refine ⟨isPlain_array.2 fun v hv => ?_, isPlain_array.2 fun w hw => ?_, ?_⟩
    · obtain ⟨w, -, h⟩ := hmatched.left v hv
      exact h.left
    · obtain ⟨v, -, h⟩ := hmatched.right w hw
      exact h.right
    · simp only [jsonEqual, jsonEqualItems_iff]
      exact h.imp fun _ _ h => h.equal

lemma alike_object {es fs : Entries} : Alike (object es) (object fs) ↔ es.Alike fs := by
  constructor
  · rintro ⟨he, hf, heq⟩
    rw [isPlain_object] at he hf
    refine ⟨he, hf, fun key => ?_⟩
    refine option_rel_imp ((Entries.jsonEqual_iff he hf).1 heq key) fun v w hv hw h => ?_
    exact ⟨he.values _ ((Entries.get?_eq_some_iff he).1 hv),
      hf.values _ ((Entries.get?_eq_some_iff hf).1 hw), h⟩
  · rintro ⟨he, hf, hrel⟩
    refine ⟨isPlain_object.2 he, isPlain_object.2 hf, (Entries.jsonEqual_iff he hf).2 fun key => ?_⟩
    exact option_rel_imp (hrel key) fun _ _ _ _ h => h.equal

lemma alike_number {x y : Number} :
    Alike (number x) (number y) ↔ x.rank? = y.rank? ∧ x.isNaN = false := by
  rw [← Number.eq_iff]
  exact ⟨fun h => by simpa [jsonEqual] using h.equal, fun h => ⟨rfl, rfl, by simpa [jsonEqual]⟩⟩

lemma alike_string (s : Text) : Alike (string s) (string s) := ⟨rfl, rfl, by simp [jsonEqual]⟩

lemma alike_undefined : Alike undefined undefined := ⟨rfl, rfl, by simp [jsonEqual]⟩

/-- The ways in which values are alike. -/
inductive AlikeView : Value → Value → Prop where
  | undefined : AlikeView undefined undefined
  | null : AlikeView null null
  | bool (b : Bool) : AlikeView (bool b) (bool b)
  | string (s : Text) : AlikeView (string s) (string s)
  | number {x y : Number} (h : x.rank? = y.rank?) (hx : x.isNaN = false) :
    AlikeView (number x) (number y)
  | array {k l : ArrayKind} {xs ys : List Value} (h : List.Forall₂ Alike xs ys) :
    AlikeView (array k xs) (array l ys)
  | object {es fs : Entries} (h : es.Alike fs) : AlikeView (object es) (object fs)

lemma Alike.view {v w : Value} (h : Alike v w) : AlikeView v w := by
  have heq := h.equal
  have hplain := everyPart_self h.left
  cases v with
  | undefined => cases w <;> first | exact .undefined | simp [jsonEqual] at heq
  | null => cases w <;> first | exact .null | simp [jsonEqual] at heq
  | bool b =>
    cases w <;> simp only [jsonEqual, Bool.false_eq_true, beq_iff_eq] at heq
    exact heq ▸ .bool b
  | string s =>
    cases w <;> simp only [jsonEqual, Bool.false_eq_true, beq_iff_eq] at heq
    exact heq ▸ .string s
  | number x =>
    cases w <;> simp only [jsonEqual, Bool.false_eq_true] at heq
    exact .number (Number.eq_iff.1 heq).1 (Number.eq_iff.1 heq).2
  | array k xs =>
    cases w <;> simp only [jsonEqual, Bool.false_eq_true] at heq
    exact .array (alike_array.1 h)
  | object es =>
    cases w <;> simp only [jsonEqual, Bool.false_eq_true] at heq
    exact .object (alike_object.1 h)
  | _ => cases hplain

/-! ### An equivalence -/

lemma Alike.symm {v w : Value} (h : Alike v w) : Alike w v := by
  induction v using Value.induction_on generalizing w with
  | leaf v hv =>
    cases h.view with
    | number hx hn =>
      refine alike_number.2 ⟨hx.symm, ?_⟩
      rwa [Number.isNaN_eq, ← hx, ← Number.isNaN_eq]
    | array | object => cases hv
    | _ => exact h
  | array k xs ih =>
    cases h.view with
    | array hxs =>
      have hboth := (List.forall₂_and_left _ _).2 ⟨fun v hv => @ih v hv, hxs⟩
      exact alike_array.2 (List.Forall₂.flip (hboth.imp fun v w h => h.1 h.2))
  | object es ih =>
    cases h.view with
    | object hes =>
      refine alike_object.2 ⟨hes.right, hes.left, fun key => ?_⟩
      rcases option_rel_iff.1 (hes.lookup key) with ⟨h, h'⟩ | ⟨v, w, hv, hw, h⟩
      · rw [h, h']
        exact .none
      · rw [hv, hw]
        exact .some (ih _ ((Entries.get?_eq_some_iff hes.left).1 hv) h)
  | set xs _ => cases everyPart_self h.left

lemma Alike.trans {u v w : Value} (h : Alike u v) (h' : Alike v w) : Alike u w := by
  induction u using Value.induction_on generalizing v w with
  | leaf u hu =>
    cases h.view with
    | number hx hn =>
      cases h'.view with
      | number hy _ => exact alike_number.2 ⟨hx.trans hy, hn⟩
    | array | object => cases hu
    | _ => exact h'
  | array k xs ih =>
    cases h.view with
    | array hxs =>
      cases h'.view with
      | array hys =>
        exact alike_array.2 (forall₂_comp hxs hys fun v hv _ _ _ => ih v hv)
  | object es ih =>
    cases h.view with
    | object hes =>
      cases h'.view with
      | object hfs =>
        refine alike_object.2 ⟨hes.left, hfs.right, fun key => ?_⟩
        rcases option_rel_iff.1 (hes.lookup key) with ⟨hk, hl⟩ | ⟨u, v, hk, hl, huv⟩
        · rcases option_rel_iff.1 (hfs.lookup key) with ⟨-, hm⟩ | ⟨_, _, hm, -, -⟩
          · rw [hk, hm]
            exact .none
          · simp [hl] at hm
        · rcases option_rel_iff.1 (hfs.lookup key) with ⟨hm, -⟩ | ⟨v', w, hl', hm, hvw⟩
          · simp [hl] at hm
          · obtain rfl : v = v' := by simpa [hl] using hl'
            rw [hk, hm]
            exact .some (ih _ ((Entries.get?_eq_some_iff hes.left).1 hk) huv hvw)
  | set xs _ => cases everyPart_self h.left

/-- Equality of content does not tell alike values apart. -/
lemma jsonEqual_congr {v v' w w' : Value} (hv : Alike v v') (hw : Alike w w') :
    jsonEqual v w = jsonEqual v' w' := by
  rw [Bool.eq_iff_iff]
  constructor
  · intro h
    exact (hv.symm.trans (Alike.trans ⟨hv.left, hw.left, h⟩ hw)).equal
  · intro h
    exact (hv.trans (Alike.trans ⟨hv.right, hw.right, h⟩ hw.symm)).equal

end Value

/-! ### Members -/

/-- Objects with alike members under the same names are alike. -/
lemma Entries.alike_of_lookup {es fs : Entries} (hs : es.HasStringKeys) (hd : es.HasDistinctKeys)
    (hs' : fs.HasStringKeys) (hd' : fs.HasDistinctKeys)
    (h : ∀ key, Option.Rel Value.Alike (es.get? key) (fs.get? key)) : es.Alike fs := by
  refine ⟨⟨hs, hd, fun e he => ?_⟩, ⟨hs', hd', fun f hf => ?_⟩, h⟩
  · have hrel := h e.1
    rw [get?_of_mem hd he] at hrel
    rcases option_rel_iff.1 hrel with ⟨hn, -⟩ | ⟨v, w, hv, -, hvw⟩
    · cases hn
    · cases hv
      exact hvw.left
  · have hrel := h f.1
    rw [get?_of_mem hd' hf] at hrel
    rcases option_rel_iff.1 hrel with ⟨-, hn⟩ | ⟨v, w, -, hw, hvw⟩
    · cases hn
    · cases hw
      exact hvw.right

lemma Entries.alike_nil : Entries.Alike [] [] :=
  have hplain : Entries.IsPlain [] := ⟨nofun, .nil, nofun⟩
  ⟨hplain, hplain, fun _ => .none⟩

namespace Entries.Alike

variable {es fs : Entries} (h : es.Alike fs)

include h

/-- The same names with alike members, in any order. -/
lemma matched : Matched (fun e f : Value × Value => e.1 = f.1 ∧ Value.Alike e.2 f.2) es fs := by
  refine ⟨?_, ?_⟩
  · intro e he
    have hrel := h.lookup e.1
    rw [get?_of_mem h.left.distinctKeys he] at hrel
    rcases option_rel_iff.1 hrel with ⟨hn, -⟩ | ⟨v, w, hv, hw, hvw⟩
    · cases hn
    · cases hv
      exact ⟨(e.1, w), (get?_eq_some_iff h.right).1 hw, rfl, hvw⟩
  · intro f hf
    have hrel := h.lookup f.1
    rw [get?_of_mem h.right.distinctKeys hf] at hrel
    rcases option_rel_iff.1 hrel with ⟨-, hn⟩ | ⟨v, w, hv, hw, hvw⟩
    · cases hn
    · cases hw
      exact ⟨(f.1, v), (get?_eq_some_iff h.left).1 hv, rfl, hvw⟩

/-- The members under one key, none or one on both sides. -/
lemma forall₂_key (key : Value) :
    List.Forall₂ (fun e f : Value × Value => e.1 = f.1 ∧ Value.Alike e.2 f.2)
      (List.filter (fun e => same e.1 key) es) (List.filter (fun f => same f.1 key) fs) := by
  rcases option_rel_iff.1 (h.lookup key) with ⟨hv, hw⟩ | ⟨v, w, hv, hw, hvw⟩
  · have hes : List.filter (fun e : Value × Value => same e.1 key) es = [] := by
      simpa using get?_eq_none.1 hv
    have hfs : List.filter (fun f : Value × Value => same f.1 key) fs = [] := by
      simpa using get?_eq_none.1 hw
    rw [hes, hfs]
    exact .nil
  · have hm := (get?_eq_some_iff h.left).1 hv
    have hm' := (get?_eq_some_iff h.right).1 hw
    rw [filter_of_mem h.left.distinctKeys (h.left.stringKeys _ hm) hm,
      filter_of_mem h.right.distinctKeys (h.right.stringKeys _ hm') hm']
    exact .cons ⟨rfl, hvw⟩ .nil

lemma length_eq : es.length = fs.length := by
  have heq := (Value.alike_object.2 h).equal
  simp only [jsonEqual, Bool.and_eq_true, beq_iff_eq] at heq
  exact heq.1.1

/-- A member that is absent on one side is absent on the other. -/
lemma get (key : Value) : Value.Alike (es.get key) (fs.get key) := by
  unfold Entries.get
  rcases option_rel_iff.1 (h.lookup key) with ⟨hv, hw⟩ | ⟨v, w, hv, hw, hvw⟩
  · rw [hv, hw]
    exact alike_undefined
  · rw [hv, hw]
    exact hvw

lemma filter_named? (name : String) {p : Value → Bool}
    (hp : ∀ {v w}, Value.Alike v w → p v = p w) :
    Option.Rel Value.Alike ((es.named? name).filter p) ((fs.named? name).filter p) := by
  rcases option_rel_iff.1 (h.lookup (.string name)) with ⟨hv, hw⟩ | ⟨v, w, hv, hw, hvw⟩
  · rw [Entries.named?, Entries.named?, hv, hw]
    exact .none
  · rw [Entries.named?, Entries.named?, hv, hw, Option.filter_some, Option.filter_some, hp hvw]
    split
    · exact .some hvw
    · exact .none

end Entries.Alike

/-! ### What validation asks of a value -/

namespace Value

namespace Alike

variable {v w : Value} (h : Alike v w)

include h

lemma isUndefined_eq : v.isUndefined = w.isUndefined := by
  cases h.view <;> rfl

lemma isNull_eq : v.isNull = w.isNull := by
  cases h.view <;> rfl

lemma isArray_eq : v.isArray = w.isArray := by
  cases h.view <;> rfl

lemma kindName_eq : v.kindName = w.kindName := by
  cases h.view <;> rfl

lemma isTruthy_eq : v.isTruthy = w.isTruthy := by
  cases h.view with
  | number hx _ => simp only [isTruthy, Number.isZero_congr hx]
  | array hxs => simp only [isTruthy, (Matched.of_forall₂ hxs).isEmpty_eq]
  | object hes => simp only [isTruthy, hes.matched.isEmpty_eq]
  | _ => rfl

lemma falsy_eq : v.falsy = w.falsy := by
  cases h.view with
  | number hx _ => simp only [falsy, Number.isZero_congr hx, Number.isNaN_eq, hx]
  | _ => rfl

/-- A number with two ways to be written is no integer beyond the doubles. -/
lemma hasAnswer_isFalsy : HasAnswer v.isFalsy ↔ HasAnswer w.isFalsy := by
  cases h.view with
  | number hx _ =>
    rcases Number.eq_or_isInRange hx with rfl | ⟨hx, hy⟩
    · rfl
    · rw [isFalsy_of_isInRange hx, isFalsy_of_isInRange hy]
      exact iff_of_true (hasAnswer_ok _) (hasAnswer_ok _)
  | _ => exact iff_of_true ⟨_, rfl⟩ ⟨_, rfl⟩

/-- Both are numbers at the same place, booleans counted as numbers, or none is. -/
lemma comparable : Related (fun _ _ => True) (fun x y : Number => x.rank? = y.rank?) v.comparable
    w.comparable := by
  cases h.view with
  | number hx _ => exact .ok hx
  | bool b => exact .ok rfl
  | _ => exact .error trivial

/-- The elements, in any order, or none have any. -/
lemma elements : Related (fun _ _ => True) (Matched Alike) v.elements w.elements := by
  have hself : ∀ {α : Type} (names : List α) (f : α → Value), (∀ a ∈ names, Alike (f a) (f a)) →
      Matched Alike (names.map f) (names.map f) := by
    intro α names f hf
    refine Matched.of_forall₂ ?_
    simpa [List.forall₂_same] using hf
  cases h.view with
  | string s => exact .ok (hself _ _ fun _ _ => alike_string _)
  | array hxs => exact .ok (.of_forall₂ hxs)
  | object hes =>
    refine .ok (hes.matched.map fun e he f _ hef => ?_)
    obtain ⟨s, hs⟩ := isString_iff.1 (hes.left.stringKeys e he)
    rw [← hef.1, hs]
    exact alike_string s
  | _ => exact .error trivial

end Alike

lemma areWritable_eq {items : List Value} : areWritable items = items.all isWritable := by
  induction items with
  | nil => rfl
  | cons v rest ih => simp [areWritable, ih]

lemma areJsonWritable_eq {items : List Value} :
    areJsonWritable items = items.all isJsonWritable := by
  induction items with
  | nil => rfl
  | cons v rest ih => simp [areJsonWritable, ih]

lemma fieldsAreJsonWritable_eq {entries : Entries} :
    fieldsAreJsonWritable entries =
      List.all entries fun e => isWritable e.1 && isJsonWritable e.2 := by
  induction entries with
  | nil => rfl
  | cons e rest ih =>
    obtain ⟨k, v⟩ := e
    simp [fieldsAreJsonWritable, ih]

lemma isWritable_congr {x y : Number} (h : x.rank? = y.rank?) :
    (number x).isWritable = (number y).isWritable := by
  rcases Number.eq_or_isInRange h with rfl | ⟨hx, hy⟩
  · rfl
  · rw [isWritable_of_isInRange hx, isWritable_of_isInRange hy]

lemma isJsonWritable_number (x : Number) : (number x).isJsonWritable = (number x).isWritable := by
  cases x <;> rfl

lemma Alike.isWritable_eq {v w : Value} (h : Alike v w) : v.isWritable = w.isWritable := by
  induction v using Value.induction_on generalizing w with
  | leaf v hv =>
    cases h.view with
    | number hx _ => exact isWritable_congr hx
    | array => cases hv
    | _ => rfl
  | array k xs ih =>
    cases h.view with
    | array hxs =>
      simp only [isWritable, areWritable_eq]
      exact (Matched.of_forall₂ hxs).all_eq fun v hv _ _ hvw => ih v hv hvw
  | object => cases h.view; rfl
  | set => cases h.view

lemma Alike.isJsonWritable_eq {v w : Value} (h : Alike v w) :
    v.isJsonWritable = w.isJsonWritable := by
  induction v using Value.induction_on generalizing w with
  | leaf v hv =>
    cases h.view with
    | number hx _ =>
      rw [isJsonWritable_number, isJsonWritable_number]
      exact isWritable_congr hx
    | array | object => cases hv
    | _ => rfl
  | array k xs ih =>
    cases h.view with
    | array hxs =>
      simp only [isJsonWritable, areJsonWritable_eq]
      exact (Matched.of_forall₂ hxs).all_eq fun v hv _ _ hvw => ih v hv hvw
  | object es ih =>
    cases h.view with
    | object hes =>
      simp only [isJsonWritable, fieldsAreJsonWritable_eq]
      exact hes.matched.all_eq fun e he f _ hef => by rw [hef.1, ih e he hef.2]
  | set => cases h.view

lemma Alike.canShow_eq {v w : Value} (h : Alike v w) (form : LiteralForm) :
    form.canShow v = form.canShow w := by
  cases form with
  | json => exact h.isJsonWritable_eq
  | quoted | plain => exact h.isWritable_eq

end Value

/-! ### Keywords -/

namespace Entries.Alike

variable {keywords keywords' : Entries} (h : keywords.Alike keywords') (name : String)

include h

lemma given? : Option.Rel Value.Alike (keywords.given? name) (keywords'.given? name) :=
  h.filter_named? name fun hvw => congrArg (!·) hvw.isNull_eq

lemma defined? : Option.Rel Value.Alike (keywords.defined? name) (keywords'.defined? name) :=
  h.filter_named? name fun hvw => congrArg (!·) hvw.isUndefined_eq

lemma truthy? : Option.Rel Value.Alike ((keywords.named? name).filter isTruthy)
    ((keywords'.named? name).filter isTruthy) :=
  h.filter_named? name fun hvw => hvw.isTruthy_eq

end Entries.Alike

/-! ### The order of members -/

namespace Value

mutual

/-- The keys of a value in their order, with all else left blank. -/
def layout : Value → Value
  | array _ items => list (itemLayouts items)
  | object entries => object (entryLayouts entries)
  | _ => null

def itemLayouts : List Value → List Value
  | [] => []
  | v :: rest => layout v :: itemLayouts rest

def entryLayouts : List (Value × Value) → List (Value × Value)
  | [] => []
  | (key, v) :: rest => (key, layout v) :: entryLayouts rest

end

lemma itemLayouts_eq (items : List Value) : itemLayouts items = items.map layout := by
  induction items with
  | nil => rfl
  | cons v rest ih => rw [itemLayouts, ih, List.map_cons]

lemma entryLayouts_eq (entries : Entries) :
    entryLayouts entries = List.map (fun e => (e.1, layout e.2)) entries := by
  induction entries with
  | nil => rfl
  | cons e rest ih => rw [entryLayouts, ih, List.map_cons]

lemma get?_entryLayouts (entries : Entries) (key : Value) :
    Entries.get? (entryLayouts entries) key = (entries.get? key).map layout := by
  induction entries with
  | nil => rfl
  | cons e rest ih =>
    obtain ⟨k, v⟩ := e
    rw [entryLayouts, Entries.get?_cons, Entries.get?_cons, ih]
    split <;> rfl

/-- Arrays with their members in the same order have elements with their members in the same
order. -/
lemma forall₂_layout {k l : ArrayKind} {xs ys : List Value}
    (h : (array k xs).layout = (array l ys).layout) :
    List.Forall₂ (fun v w => v.layout = w.layout) xs ys := by
  simp only [layout, list, array.injEq, true_and, itemLayouts_eq] at h
  rw [← List.forall₂_eq_eq_eq, List.forall₂_map_left_iff, List.forall₂_map_right_iff] at h
  exact h

lemma layout_get? {es fs : Entries} (h : (object es).layout = (object fs).layout) {key v w : Value}
    (hv : es.get? key = some v) (hw : fs.get? key = some w) : v.layout = w.layout := by
  simp only [layout, object.injEq] at h
  have hkey := congrArg (fun entries => Entries.get? entries key) h
  simpa [get?_entryLayouts, hv, hw] using hkey

end Value

/-- Alike members in the same order are alike one by one. -/
lemma Entries.Alike.forall₂ {es fs : Entries} (h : es.Alike fs)
    (ho : (object es).layout = (object fs).layout) :
    List.Forall₂ (fun e f : Value × Value => e.1 = f.1 ∧ Value.Alike e.2 f.2) es fs := by
  have hkeys : List.Forall₂ (fun e f : Value × Value => e.1 = f.1) es fs := by
    have hl := ho
    simp only [layout, object.injEq, entryLayouts_eq] at hl
    rw [← List.forall₂_eq_eq_eq, List.forall₂_map_left_iff, List.forall₂_map_right_iff] at hl
    exact hl.imp fun _ _ h => congrArg (·.1) h
  refine (forall₂_mem hkeys).imp fun e f ⟨he, hf, hkey⟩ => ⟨hkey, ?_⟩
  have hrel := h.lookup e.1
  rw [get?_of_mem h.left.distinctKeys he, hkey, get?_of_mem h.right.distinctKeys hf] at hrel
  cases hrel with
  | some hvw => exact hvw

end JsonSchema
