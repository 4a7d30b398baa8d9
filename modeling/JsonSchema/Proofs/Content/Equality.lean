import JsonSchema.Proofs.Content.Alike
import JsonSchema.Proofs.Path
import JsonSchema.Proofs.Rational

/-!
Equality of JSON content, position by position.

Two values are equal if and only if they have the same positions and agree at each of them: both
hold an array there, or both an object, or the same leaf. Numbers are the same leaf if they have one
exact value, so NaN is none. Main statement: equality is symmetric and transitive, a value equals
itself unless there is a NaN in it, neither the order of members nor the kind of an array counts,
and values with a boolean and a number at one position are not equal.
-/

namespace JsonSchema.Value

/-! ### Parts of plain values -/

lemma isPlain_of_child? {v w : Value} {step : Step} (hv : v.isPlain = true)
    (h : v.child? step = some w) : w.isPlain = true := by
  unfold child? at h
  split at h
  · exact everyPart_of_get? hv h
  · exact everyPart_of_item hv w (List.mem_of_getElem? h)
  · cases h

lemma isPlain_of_follow {v w : Value} {steps : List Step} (hv : v.isPlain = true)
    (h : v.follow steps = some w) : w.isPlain = true := by
  induction steps generalizing v with
  | nil => exact Option.some.inj h ▸ hv
  | cons step rest ih =>
    obtain ⟨u, hu, h⟩ := Option.bind_eq_some_iff.1 h
    exact ih (isPlain_of_child? hv hu) h

/-! ### Agreement at every position -/

/-- Two values agree as far as one sees without going into arrays and objects. Numbers agree if they
have one exact value. -/
inductive AgreeHere : Value → Value → Prop where
  | undefined : AgreeHere undefined undefined
  | null : AgreeHere null null
  | bool (b : Bool) : AgreeHere (bool b) (bool b)
  | number {x y : Number} {value : WithBot (WithTop ℚ)} (hx : x.extended? = some value)
    (hy : y.extended? = some value) : AgreeHere (number x) (number y)
  | string (s : Text) : AgreeHere (string s) (string s)
  | array (k l : ArrayKind) (xs ys : List Value) : AgreeHere (array k xs) (array l ys)
  | object (es fs : Entries) : AgreeHere (object es) (object fs)

/-- Two values have the same positions and agree at each of them. -/
def AgreeEverywhere (v w : Value) : Prop :=
  ∀ steps, Option.Rel AgreeHere (v.follow steps) (w.follow steps)

lemma Alike.agreeHere {v w : Value} (h : Alike v w) : AgreeHere v w := by
  cases h.view with
  | undefined => exact .undefined
  | null => exact .null
  | bool b => exact .bool b
  | string s => exact .string s
  | number hx hn =>
    obtain ⟨_, hp, hq⟩ := Number.eq_iff_extended?.1 (Number.eq_iff.2 ⟨hx, hn⟩)
    exact .number hp hq
  | array _ => exact .array ..
  | object _ => exact .object ..

lemma AgreeHere.alike {v w : Value} (h : AgreeHere v w) (hd : v.depth = 0) : Alike v w := by
  cases h with
  | number hx hy => exact alike_number.2 (Number.eq_iff.1 (Number.eq_iff_extended?.2 ⟨_, hx, hy⟩))
  | string s => exact alike_string s
  | array | object => cases hd
  | _ => exact ⟨rfl, rfl, by simp [jsonEqual]⟩

/-- One step leads from alike values to alike values, or out of both. -/
lemma Alike.child? {v w : Value} (h : Alike v w) (step : Step) :
    Option.Rel Alike (v.child? step) (w.child? step) := by
  cases h.view with
  | array hxs =>
    cases step with
    | member key => exact .none
    | element i => exact forall₂_iff_getElem?.1 hxs i
  | object hes =>
    cases step with
    | member key => exact hes.lookup key
    | element i => exact .none
  | _ => exact .none

lemma Alike.follow {v w : Value} (h : Alike v w) (steps : List Step) :
    Option.Rel Alike (v.follow steps) (w.follow steps) := by
  induction steps generalizing v w with
  | nil => exact .some h
  | cons step rest ih => exact option_rel_bind (h.child? step) fun _ _ _ h => ih h

lemma Alike.agreeEverywhere {v w : Value} (h : Alike v w) : AgreeEverywhere v w := fun steps =>
  option_rel_imp (h.follow steps) fun _ _ _ _ h => h.agreeHere

namespace AgreeEverywhere

variable {v w : Value}

lemma here (h : AgreeEverywhere v w) : AgreeHere v w := Option.rel_some_some.1 (h [])

lemma child? (h : AgreeEverywhere v w) (step : Step) :
    Option.Rel AgreeEverywhere (v.child? step) (w.child? step) := by
  have hnil : Option.Rel AgreeHere (v.child? step) (w.child? step) := by
    simpa [follow_cons] using h [step]
  refine option_rel_imp hnil fun a b ha hb _ rest => ?_
  have hrest := h (step :: rest)
  rwa [follow_cons, follow_cons, ha, hb] at hrest

/-- Values that agree at every position are alike, by induction on the left one. -/
lemma alike (h : AgreeEverywhere v w) (hv : v.isPlain = true) (hw : w.isPlain = true) :
    Alike v w := by
  induction v using Value.induction_on generalizing w with
  | leaf v hd => exact h.here.alike hd
  | array k xs ih =>
    cases h.here with
    | array _ l _ ys =>
      refine alike_array.2 (forall₂_iff_getElem?.2 fun i => ?_)
      refine option_rel_imp (h.child? (.element i)) fun x y hx hy hxy => ?_
      have hx := List.mem_of_getElem? hx
      have hy := List.mem_of_getElem? hy
      exact ih x hx hxy (isPlain_array.1 hv x hx) (isPlain_array.1 hw y hy)
  | object es ih =>
    cases h.here with
    | object _ fs =>
      have he := isPlain_object.1 hv
      have hf := isPlain_object.1 hw
      refine alike_object.2 ⟨he, hf, fun key => ?_⟩
      refine option_rel_imp (h.child? (.member key)) fun x y hx hy hxy => ?_
      have hx := (Entries.get?_eq_some_iff he).1 hx
      have hy := (Entries.get?_eq_some_iff hf).1 hy
      exact ih _ hx hxy (he.values _ hx) (hf.values _ hy)
  | set => cases everyPart_self hv

end AgreeEverywhere

/-- Values are equal if and only if they agree at every position. -/
lemma jsonEqual_iff_agreeEverywhere {v w : Value} (hv : v.isPlain = true)
    (hw : w.isPlain = true) : jsonEqual v w = true ↔ AgreeEverywhere v w :=
  ⟨fun h => Alike.agreeEverywhere ⟨hv, hw, h⟩, fun h => (h.alike hv hw).equal⟩

/-! ### Both directions, and equality with itself -/

lemma jsonEqual_comm {v w : Value} (hv : v.isPlain = true) (hw : w.isPlain = true) :
    jsonEqual v w = jsonEqual w v := by
  rw [Bool.eq_iff_iff]
  exact ⟨fun h => (Alike.symm ⟨hv, hw, h⟩).equal, fun h => (Alike.symm ⟨hw, hv, h⟩).equal⟩

/-- A value that is not NaN agrees with itself. -/
lemma agreeHere_self {v : Value} (hv : v.isPlain = true)
    (hn : ∀ x, v = number x → x.isNaN = false) : AgreeHere v v := by
  have hself := everyPart_self hv
  cases v with
  | undefined => exact .undefined
  | null => exact .null
  | bool b => exact .bool b
  | string s => exact .string s
  | number x =>
    obtain ⟨_, hp, -⟩ := Number.eq_iff_extended?.1 (Number.eq_self (hn x rfl))
    exact .number hp hp
  | array k xs => exact .array ..
  | object es => exact .object ..
  | date | datetime | bytes | set => cases hself

/-- A value equals itself if and only if there is no NaN at any position. -/
lemma jsonEqual_self_iff {v : Value} (hv : v.isPlain = true) : jsonEqual v v = true ↔
    ∀ steps x, v.follow steps = some (number x) → x.isNaN = false := by
  rw [jsonEqual_iff_agreeEverywhere hv hv]
  constructor
  · intro h steps x hx
    have hhere := h steps
    rw [hx, Option.rel_some_some] at hhere
    cases hhere with
    | number hp hq => exact (Number.eq_iff.1 (Number.eq_iff_extended?.2 ⟨_, hp, hq⟩)).2
  · intro h steps
    cases hf : v.follow steps with
    | none => exact .none
    | some w =>
      exact .some (agreeHere_self (isPlain_of_follow hv hf) fun x hx => h steps x (hx ▸ hf))

/-- Values with a boolean and a number at one position are not equal. -/
lemma jsonEqual_of_bool_number {v w : Value} (hv : v.isPlain = true) (hw : w.isPlain = true)
    {steps : List Step} {b : Bool} {x : Number} (hb : v.follow steps = some (bool b))
    (hx : w.follow steps = some (number x)) : jsonEqual v w = false := by
  rw [← Bool.not_eq_true, jsonEqual_iff_agreeEverywhere hv hw]
  intro h
  have hhere := h steps
  rw [hb, hx, Option.rel_some_some] at hhere
  cases hhere

/-! ### The order of members and the kind of arrays -/

/-- The same value but for the order of the members in its objects and the kinds of its arrays, at
any depth. Objects have the same keys in some order, with rearranged values under the same key. -/
inductive Rearranged : Value → Value → Prop where
  | same (v : Value) : Rearranged v v
  | array {k l : ArrayKind} {xs ys : List Value} (h : List.Forall₂ Rearranged xs ys) :
    Rearranged (array k xs) (array l ys)
  | object {es fs : Entries} (hkeys : es.keys.Perm fs.keys)
    (h : ∀ key v w, (key, v) ∈ es → (key, w) ∈ fs → Rearranged v w) :
    Rearranged (object es) (object fs)

namespace Rearranged

variable {v v' : Value}

lemma isPlain (h : Rearranged v v') (hv : v.isPlain = true) : v'.isPlain = true := by
  induction v using Value.induction_on generalizing v' with
  | leaf v hd =>
    cases h with
    | same => exact hv
    | array | object => cases hd
  | array k xs ih =>
    cases h with
    | same => exact hv
    | array h =>
      refine isPlain_array.2 fun y hy => ?_
      obtain ⟨x, hx, hxy⟩ := (Matched.of_forall₂ h).right y hy
      exact ih x hx hxy (isPlain_array.1 hv x hx)
  | object es ih =>
    cases h with
    | same => exact hv
    | @object _ fs hkeys h =>
      have he := isPlain_object.1 hv
      have hmembers : ∀ f ∈ fs, ∃ v, (f.1, v) ∈ es ∧ Rearranged v f.2 := by
        intro f hf
        obtain ⟨e, hm, hkey⟩ := List.mem_map.1 (hkeys.mem_iff.2 (List.mem_map_of_mem hf))
        have hm : (f.1, e.2) ∈ es := hkey ▸ hm
        exact ⟨e.2, hm, h _ _ _ hm hf⟩
      have hs : fs.HasStringKeys := by
        intro f hf
        obtain ⟨v, hm, -⟩ := hmembers f hf
        exact he.stringKeys (f.1, v) hm
      -- being the same key is symmetric among strings only, so repetition is told from the keys
      have hnodup := hkeys.nodup_iff.1 (Entries.nodup_keys he.distinctKeys)
      refine isPlain_object.2 ⟨hs, Entries.distinctKeys_of_nodup hs hnodup, fun f hf => ?_⟩
      obtain ⟨v, hm, hvf⟩ := hmembers f hf
      exact ih _ hm hvf (he.values _ hm)
  | set => cases everyPart_self hv

/-- One step leads from rearranged values to rearranged values, or out of both. -/
lemma child? (h : Rearranged v v') (hv : v.isPlain = true) (step : Step) :
    Option.Rel Rearranged (v.child? step) (v'.child? step) := by
  have hv' := h.isPlain hv
  cases h with
  | same =>
    cases v.child? step with
    | none => exact .none
    | some w => exact .some (.same w)
  | array h =>
    cases step with
    | member key => exact .none
    | element i => exact forall₂_iff_getElem?.1 h i
  | object hkeys h =>
    cases step with
    | element i => exact .none
    | member key =>
      exact Entries.rel_get? (isPlain_object.1 hv) (isPlain_object.1 hv') hkeys h key

lemma follow (h : Rearranged v v') (hv : v.isPlain = true) (steps : List Step) :
    Option.Rel Rearranged (v.follow steps) (v'.follow steps) := by
  induction steps generalizing v v' with
  | nil => exact .some h
  | cons step rest ih =>
    exact option_rel_bind (h.child? hv step) fun w _ hw h => ih h (isPlain_of_child? hv hw)

lemma agreeHere_iff (h : Rearranged v v') {w : Value} : AgreeHere v w ↔ AgreeHere v' w := by
  cases h with
  | same => rfl
  | array | object => constructor <;> (intro h; cases h; constructor)

/-- What agrees with a value everywhere agrees with it rearranged. -/
lemma agreeEverywhere_iff (h : Rearranged v v') (hv : v.isPlain = true) {w : Value} :
    AgreeEverywhere v w ↔ AgreeEverywhere v' w := by
  refine forall_congr' fun steps => ?_
  rcases option_rel_iff.1 (h.follow hv steps) with ⟨hn, hn'⟩ | ⟨a, a', ha, ha', h⟩
  · rw [hn, hn']
  · rw [ha, ha']
    cases w.follow steps with
    | none => exact iff_of_false nofun nofun
    | some b => rw [Option.rel_some_some, Option.rel_some_some, h.agreeHere_iff]

lemma jsonEqual_left (h : Rearranged v v') (hv : v.isPlain = true) {w : Value}
    (hw : w.isPlain = true) : jsonEqual v w = jsonEqual v' w := by
  rw [Bool.eq_iff_iff, jsonEqual_iff_agreeEverywhere hv hw,
    jsonEqual_iff_agreeEverywhere (h.isPlain hv) hw, h.agreeEverywhere_iff hv]

lemma jsonEqual_eq {w w' : Value} (h : Rearranged v v') (h' : Rearranged w w')
    (hv : v.isPlain = true) (hw : w.isPlain = true) : jsonEqual v w = jsonEqual v' w' := by
  have hv' := h.isPlain hv
  calc jsonEqual v w = jsonEqual v' w := h.jsonEqual_left hv hw
    _ = jsonEqual w v' := jsonEqual_comm hv' hw
    _ = jsonEqual w' v' := h'.jsonEqual_left hw hv'
    _ = jsonEqual v' w' := jsonEqual_comm (h'.isPlain hw) hv'

end Rearranged

/-! ### The laws -/

/-- **Equality of JSON content is an equality.** Values that hold nothing but JSON, absent values
aside, are equal if and only if they agree at every position, numbers by their exact values. This is
symmetric and transitive, and a value equals itself unless there is NaN at some position. Values
that are rearranged are equal to the same values as before, and values with a boolean and a number
at one position are never equal. -/
theorem equality_of_content {u v w : Value} (hu : u.isPlain = true) (hv : v.isPlain = true)
    (hw : w.isPlain = true) :
    (jsonEqual u v = true ↔ AgreeEverywhere u v) ∧
    jsonEqual u v = jsonEqual v u ∧
    (jsonEqual u v = true → jsonEqual v w = true → jsonEqual u w = true) ∧
    (jsonEqual u u = true ↔
      ∀ steps x, u.follow steps = some (number x) → x.isNaN = false) ∧
    (∀ u' v', Rearranged u u' → Rearranged v v' → jsonEqual u v = jsonEqual u' v') ∧
    ∀ steps b x, u.follow steps = some (bool b) → v.follow steps = some (number x) →
      jsonEqual u v = false ∧ jsonEqual v u = false := by
  refine ⟨jsonEqual_iff_agreeEverywhere hu hv, jsonEqual_comm hu hv, fun huv hvw => ?_,
    jsonEqual_self_iff hu, fun u' v' hru hrv => hru.jsonEqual_eq hrv hu hv,
    fun steps b x hb hx => ?_⟩
  · exact (Alike.trans ⟨hu, hv, huv⟩ ⟨hv, hw, hvw⟩).equal
  · have huv := jsonEqual_of_bool_number hu hv hb hx
    exact ⟨huv, jsonEqual_comm hu hv ▸ huv⟩

/-- A parcel with two numbers for its size; how one and the mark are written, the kind of the array
and the order of the members are left open. -/
def parcel (one mark : Value) (kind : ArrayKind) (swap : Bool) : Value :=
  let size := (Value.string "size", Value.array kind [one, .int 2])
  let mark := (Value.string "fragile", mark)
  .object (if swap then [mark, size] else [size, mark])

def doubleOne : Value := .double (.positive 1023 0)

lemma rearranged_parcel (one mark : Value) (kind kind' : ArrayKind) :
    Rearranged (parcel one mark kind false) (parcel one mark kind' true) := by
  refine .object (.swap ..) fun key v w hv hw => ?_
  simp only [Bool.false_eq_true, if_true, if_false, List.mem_cons, Prod.mk.injEq,
    List.not_mem_nil, or_false] at hv hw
  rcases hv with ⟨rfl, rfl⟩ | ⟨rfl, rfl⟩ <;> rcases hw with ⟨hk, rfl⟩ | ⟨hk, rfl⟩
  · simp at hk
  · exact .array (.cons (.same _) (.cons (.same _) .nil))
  · exact .same _
  · simp at hk

lemma follow_parcel (one mark : Value) (kind : ArrayKind) :
    (parcel one mark kind false).follow [.member (.string "fragile")] = some mark :=
  follow_keyword (by simp)

theorem equality_of_content_parcel :
    AgreeEverywhere (parcel (.int 1) (.bool true) .list false)
      (parcel doubleOne (.bool true) .list false) ∧
    jsonEqual (parcel doubleOne (.bool true) .list false)
      (parcel (.int 1) (.bool true) .list false) = true ∧
    jsonEqual (parcel (.int 1) (.bool true) .list false)
      (parcel doubleOne (.bool true) .tuple true) = true ∧
    (∀ steps x, (parcel (.int 1) (.bool true) .list false).follow steps = some (number x) →
      x.isNaN = false) ∧
    jsonEqual (parcel (.int 1) (.bool true) .tuple true)
      (parcel doubleOne (.bool true) .tuple true) = true ∧
    jsonEqual (parcel (.int 1) (.bool true) .list false)
      (parcel (.int 1) (.int 1) .list false) = false ∧
    jsonEqual (parcel (.int 1) (.int 1) .list false)
      (parcel (.int 1) (.bool true) .list false) = false := by
  have hequal : jsonEqual (parcel (.int 1) (.bool true) .list false)
      (parcel doubleOne (.bool true) .list false) = true := by decide +kernel
  obtain ⟨hagree, hsymm, htrans, hself, horder, -⟩ := @equality_of_content
    (parcel (.int 1) (.bool true) .list false) (parcel doubleOne (.bool true) .list false)
    (parcel doubleOne (.bool true) .tuple true) (by decide +kernel) (by decide +kernel)
    (by decide +kernel)
  obtain ⟨-, -, -, -, -, hapart⟩ := @equality_of_content
    (parcel (.int 1) (.bool true) .list false) (parcel (.int 1) (.int 1) .list false) .null
    (by decide +kernel) (by decide +kernel) rfl
  have horder := horder _ _ (rearranged_parcel _ _ _ .tuple) (rearranged_parcel _ _ _ .tuple)
  refine ⟨hagree.1 hequal, hsymm ▸ hequal, htrans hequal (by decide +kernel),
    hself.1 (by decide +kernel), horder ▸ hequal, ?_⟩
  exact hapart [.member (.string "fragile")] true (.int 1) (follow_parcel ..) (follow_parcel ..)

end JsonSchema.Value
