import JsonSchema.Proofs.Keys

/-!
Properties of all parts of a value, and induction on its parts.
-/

namespace JsonSchema.Value

mutual

/-- Whether something holds of a value and of all keys and values inside it. -/
def everyPart (p : Value → Bool) : Value → Bool
  | array kind items => p (array kind items) && everyItem p items
  | object entries => p (object entries) && everyEntry p entries
  | set members => p (set members) && everyItem p members
  | v => p v

def everyItem (p : Value → Bool) : List Value → Bool
  | [] => true
  | v :: rest => everyPart p v && everyItem p rest

def everyEntry (p : Value → Bool) : List (Value × Value) → Bool
  | [] => true
  | (k, v) :: rest => everyPart p k && everyPart p v && everyEntry p rest

end

variable {p : Value → Bool}

lemma everyPart_self {v : Value} (h : v.everyPart p = true) : p v = true := by
  cases v <;> simp_all [everyPart]

@[simp] lemma everyItem_iff {items : List Value} :
    everyItem p items = true ↔ ∀ v ∈ items, v.everyPart p = true := by
  induction items with
  | nil => simp [everyItem]
  | cons v rest ih => simp [everyItem, ih]

@[simp] lemma everyEntry_iff {entries : Entries} :
    everyEntry p entries = true ↔
      ∀ e ∈ entries, everyPart p e.1 = true ∧ everyPart p e.2 = true := by
  induction entries with
  | nil => simp [everyEntry]
  | cons e rest ih =>
    obtain ⟨k, v⟩ := e
    simp [everyEntry, ih]

lemma everyPart_of_item {kind : ArrayKind} {items : List Value}
    (h : (array kind items).everyPart p = true) : ∀ v ∈ items, v.everyPart p = true := by
  simp only [everyPart, Bool.and_eq_true, everyItem_iff] at h
  exact h.2

lemma everyPart_of_entry {entries : Entries} (h : (object entries).everyPart p = true) :
    ∀ e ∈ entries, everyPart p e.1 = true ∧ everyPart p e.2 = true := by
  simp only [everyPart, Bool.and_eq_true, everyEntry_iff] at h
  exact h.2

lemma everyPart_of_get? {entries : Entries} (h : (object entries).everyPart p = true)
    {key v : Value} (hv : entries.get? key = some v) : v.everyPart p = true := by
  obtain ⟨k, hm, -⟩ := Entries.mem_of_get? hv
  exact (everyPart_of_entry h _ hm).2

lemma everyPart_of_get {entries : Entries} (h : (object entries).everyPart p = true)
    (hu : p undefined = true) (key : Value) : (entries.get key).everyPart p = true := by
  unfold Entries.get
  cases hv : entries.get? key with
  | none => simpa [everyPart] using hu
  | some v => exact everyPart_of_get? h hv

/-- Induction on the values inside a value, keys left out. -/
theorem induction_on {P : Value → Prop} (v : Value) (leaf : ∀ v : Value, v.depth = 0 → P v)
    (array : ∀ kind items, (∀ v ∈ items, P v) → P (.array kind items))
    (object : ∀ entries : Entries, (∀ e ∈ entries, P e.2) → P (.object entries))
    (set : ∀ members, (∀ v ∈ members, P v) → P (.set members)) : P v := by
  induction hd : v.depth using Nat.strongRecOn generalizing v with
  | _ n ih =>
    cases v with
    | array kind items =>
      refine array kind items fun w hw => ih w.depth ?_ w rfl
      have := depth_le_depthOfItems hw
      simp only [depth] at hd
      omega
    | object entries =>
      refine object entries fun e he => ih e.2.depth ?_ e.2 rfl
      have := depth_le_depthOfEntries (k := e.1) (v := e.2) he
      simp only [depth] at hd
      omega
    | set members =>
      refine set members fun w hw => ih w.depth ?_ w rfl
      have := depth_le_depthOfItems hw
      simp only [depth] at hd
      omega
    | _ => exact leaf _ rfl

end JsonSchema.Value
