import JsonSchema.Proofs.Answer

/-!
Entries by key: strings as keys, entries whose keys are all different, and what looking up,
inserting and erasing do to them.
-/

namespace JsonSchema

/-! ### Values as keys -/

lemma Number.eq_self {x : Number} (h : x.isNaN = false) : Number.eq x x = true := by
  have hrank : ∃ r, x.rank? = some r := by
    cases x with
    | int n => exact ⟨_, rfl⟩
    | double d =>
      cases d with
      | nan => cases h
      | _ => exact ⟨_, rfl⟩
  obtain ⟨r, hr⟩ := hrank
  unfold Number.eq Number.compareBy
  rw [hr]
  exact beq_self_eq_true r

namespace Value

mutual

/-- Every value is the same key as itself, NaN too. -/
theorem same_self : (v : Value) → same v v = true
  | undefined => by simp [same]
  | null => by simp [same]
  | bool b => by simp [same]
  | number (.double .nan) => by simp [same]
  | number (.int n) => by simp [same, Number.eq_self (x := .int n) rfl]
  | number (.double (.infinite s)) => by simp [same]; exact Number.eq_self rfl
  | number (.double (.finite s e f)) => by simp [same]; exact Number.eq_self rfl
  | string s => by simp [same]
  | array k items => by simp [same, sameItems_self items]
  | object entries => by
    simp [same, sameEntries_of_subset entries entries fun e he => he]
  | date d => by simp [same]
  | datetime t => by simp [same, DateTime.sameInstant]
  | bytes bs => by simp [same]
  | set members => by simp [same, sameMembers_of_subset members members fun v hv => hv]

theorem sameItems_self : (vs : List Value) → sameItems vs vs = true
  | [] => by simp [sameItems]
  | v :: rest => by simp [sameItems, same_self v, sameItems_self rest]

theorem sameEntries_of_subset : (es fs : List (Value × Value)) → (∀ e ∈ es, e ∈ fs) →
    sameEntries es fs = true
  | [], fs, _ => by simp [sameEntries]
  | (k, v) :: rest, fs, h => by
    simp only [sameEntries, Bool.and_eq_true, List.any_eq_true]
    exact ⟨⟨(k, v), h _ (by simp), same_self k, same_self v⟩,
      sameEntries_of_subset rest fs fun e he => h e (by simp [he])⟩

theorem sameMembers_of_subset : (xs ys : List Value) → (∀ x ∈ xs, x ∈ ys) →
    sameMembers xs ys = true
  | [], ys, _ => by simp [sameMembers]
  | x :: rest, ys, h => by
    simp only [sameMembers, Bool.and_eq_true, List.any_eq_true]
    exact ⟨⟨x, h _ (by simp), same_self x⟩,
      sameMembers_of_subset rest ys fun y hy => h y (by simp [hy])⟩

end

def isString : Value → Bool
  | string _ => true
  | _ => false

lemma isString_iff {v : Value} : v.isString = true ↔ ∃ s, v = .string s := by
  cases v <;> simp [isString]

@[simp] lemma same_string {v : Value} {s : Text} :
    same v (.string s) = true ↔ v = .string s := by
  cases v <;> simp [same]

@[simp] lemma string_same {v : Value} {s : Text} :
    same (.string s) v = true ↔ v = .string s := by
  cases v <;> simp [same]
  exact eq_comm

/-- Nothing but itself is the same key as a string. -/
lemma same_of_isString {v w : Value} (h : w.isString = true) : same v w = true ↔ v = w := by
  obtain ⟨s, rfl⟩ := isString_iff.1 h
  exact same_string

lemma eq_undefined {v : Value} (h : v.isUndefined = true) : v = .undefined := by
  cases v <;> simp_all [isUndefined]

end Value

namespace Entries

def HasStringKeys (entries : Entries) : Prop := ∀ e ∈ entries, e.1.isString = true

def HasDistinctKeys (entries : Entries) : Prop :=
  List.Pairwise (fun e f => Value.same e.1 f.1 = false) entries

/-- Keys that are the same key are equal, so that they have one text. -/
def HasClearKeys (entries : Entries) : Prop :=
  ∀ e ∈ entries, ∀ f ∈ entries, Value.same f.1 e.1 = true → f.1 = e.1

lemma HasStringKeys.clear {entries : Entries} (h : entries.HasStringKeys) :
    entries.HasClearKeys :=
  fun e he _ _ => (Value.same_of_isString (h e he)).1

instance (entries : Entries) : Decidable entries.HasStringKeys :=
  inferInstanceAs (Decidable (∀ e ∈ entries, e.1.isString = true))

instance (entries : Entries) : Decidable entries.HasDistinctKeys :=
  inferInstanceAs (Decidable (List.Pairwise _ entries))

/-! ### Looking up -/

@[simp] lemma get?_nil (key : Value) : get? [] key = none := rfl

lemma get?_cons (k v : Value) (rest : List (Value × Value)) (key : Value) :
    get? ((k, v) :: rest) key = if Value.same k key then some v else get? rest key := by
  by_cases h : Value.same k key = true <;> simp [get?, h]

lemma mem_of_get? {entries : Entries} {key v : Value} (h : entries.get? key = some v) :
    ∃ k, (k, v) ∈ entries ∧ Value.same k key = true := by
  obtain ⟨e, he, rfl⟩ := Option.map_eq_some_iff.1 h
  exact ⟨e.1, List.mem_of_find?_eq_some he, by simpa using List.find?_some he⟩

lemma get?_eq_none {entries : Entries} {key : Value} :
    entries.get? key = none ↔ ∀ e ∈ entries, Value.same e.1 key = false := by
  simp [get?]

lemma get_of_not_contains {entries : Entries} {key : Value} (h : entries.contains key = false) :
    entries.get key = .undefined := by
  rw [get, get?_eq_none.2 fun e he => by simpa using List.any_eq_false.1 h e he]
  rfl

lemma get?_of_mem {entries : Entries} (hd : entries.HasDistinctKeys) {key v : Value}
    (h : (key, v) ∈ entries) : entries.get? key = some v := by
  induction entries with
  | nil => simp at h
  | cons e rest ih =>
    obtain ⟨k, w⟩ := e
    obtain ⟨hne, hd⟩ := List.pairwise_cons.1 hd
    rw [get?_cons]
    rcases List.mem_cons.1 h with h | h
    · cases h
      rw [if_pos (Value.same_self key)]
    · have : Value.same k key = false := hne _ h
      rw [if_neg (by simp [this])]
      exact ih hd h

lemma get_of_mem {entries : Entries} (hd : entries.HasDistinctKeys) {key v : Value}
    (h : (key, v) ∈ entries) : entries.get key = v := by
  simp [get, get?_of_mem hd h]

lemma get?_of_get {entries : Entries} {key : Value} (h : (entries.get key).isUndefined = false) :
    entries.get? key = some (entries.get key) := by
  unfold get at h ⊢
  cases hg : entries.get? key with
  | none => simp [hg, Value.isUndefined] at h
  | some v => rfl

/-- A member that is not absent is under a key of the object. -/
lemma mem_of_get {entries : Entries} {key : Value} (h : (entries.get key).isUndefined = false) :
    ∃ k, (k, entries.get key) ∈ entries ∧ Value.same k key = true :=
  mem_of_get? (get?_of_get h)

@[simp] lemma named?_nil (name : String) : named? [] name = none := rfl

@[simp] lemma named?_cons (s name : String) (v : Value) (rest : Entries) :
    named? ((.string s, v) :: rest) name = if s = name then some v else named? rest name := by
  by_cases h : s = name <;> simp [named?, get?, Value.same, h]

lemma named?_cons_of_ne {key v : Value} {name : String} (h : key ≠ .string name)
    (rest : Entries) : named? ((key, v) :: rest) name = rest.named? name := by
  rw [named?, get?_cons, if_neg (by simpa using h)]
  rfl

lemma named?_of_defined? {keywords : Entries} {name : String} {v : Value}
    (h : keywords.defined? name = some v) : keywords.named? name = some v := by
  simp only [defined?, Option.filter_eq_some_iff] at h
  exact h.1

lemma isUndefined_of_defined? {keywords : Entries} {name : String} {v : Value}
    (h : keywords.defined? name = some v) : v.isUndefined = false := by
  simp only [defined?, Option.filter_eq_some_iff] at h
  simpa using h.2

lemma named?_of_children {keywords children : Entries} {name : String}
    (h : keywords.children name = .ok children) :
    keywords.named? name = some (.object children) ∨ children = [] := by
  unfold Entries.children at h
  split at h
  · cases h; exact .inr rfl
  · split at h
    · cases h; exact .inr rfl
    · split at h
      · cases h; exact .inl ‹_›
      · cases h

end Entries

end JsonSchema
