import JsonSchema.Builder
import JsonSchema.Proofs.Keys

/-!
Entries put one after another on top of others: which keys there are, in which order, and which
value each of them has.
-/

namespace JsonSchema.Entries

/-- Keys without repetitions, each where it occurs first. -/
def firstKeys : List Value → List Value
  | [] => []
  | k :: rest => k :: (firstKeys rest).filter fun l => !Value.same k l

def last? (entries : Entries) (key : Value) : Option Value :=
  (List.filter (fun e => Value.same e.1 key) entries).getLast?.map (·.2)

/-! ### One entry -/

lemma keys_insert (entries : Entries) (key v : Value) :
    (entries.insert key v).keys =
      if entries.contains key then entries.keys else entries.keys ++ [key] := by
  induction entries with
  | nil => rfl
  | cons e rest ih =>
    obtain ⟨k, w⟩ := e
    by_cases h : Value.same k key = true
    · simp [Entries.insert, contains, keys, h]
    · have hk : keys (Entries.insert ((k, w) :: rest) key v) = k :: (insert rest key v).keys := by
        simp [Entries.insert, keys, h]
      have hc : contains ((k, w) :: rest) key = contains rest key := by simp [contains, h]
      rw [hk, hc, ih]
      split <;> rfl

lemma insert_of_not_contains {entries : Entries} {key : Value} (h : entries.contains key = false)
    (v : Value) : entries.insert key v = List.append entries [(key, v)] := by
  induction entries with
  | nil => rfl
  | cons e rest ih =>
    obtain ⟨k, w⟩ := e
    simp only [contains, List.any_cons, Bool.or_eq_false_iff] at h
    simp [Entries.insert, h.1, ih h.2]

lemma erase_of_not_contains {entries : Entries} {key : Value} (h : entries.contains key = false) :
    entries.erase key = entries := by
  refine List.filter_eq_self.2 fun e he => ?_
  simpa using List.any_eq_false.1 h e he

lemma contains_eq_any_keys (entries : Entries) (key : Value) :
    entries.contains key = entries.keys.any fun k => Value.same k key := by
  simp [contains, keys, List.any_map, Function.comp_def]

lemma contains_iff_of_isString {entries : Entries} {key : Value} (hs : key.isString = true) :
    entries.contains key = true ↔ key ∈ entries.keys := by
  simp [contains, keys, Value.same_of_isString hs]

lemma mem_keys_of_contains {entries : Entries} {key : Value} (hs : entries.HasStringKeys)
    (h : entries.contains key = true) : key ∈ entries.keys := by
  obtain ⟨e, he, hsame⟩ := List.any_eq_true.1 h
  obtain ⟨s, hk⟩ := Value.isString_iff.1 (hs e he)
  rw [hk, Value.string_same] at hsame
  exact List.mem_map.2 ⟨e, he, hk.trans hsame.symm⟩

lemma contains_insert {entries : Entries} {key : Value} (hs : key.isString = true) (v k : Value) :
    (entries.insert key v).contains k = (entries.contains k || Value.same key k) := by
  rw [contains_eq_any_keys, keys_insert]
  split
  · rename_i hc
    rw [← contains_eq_any_keys]
    cases hk : Value.same key k with
    | false => simp
    | true =>
      have : entries.contains k = true := by
        rw [contains_eq_any_keys, List.any_eq_true]
        exact ⟨key, (contains_iff_of_isString hs).1 hc, hk⟩
      simp [this]
  · simp [contains_eq_any_keys]

lemma get?_insert {entries : Entries} {key : Value} (hs : key.isString = true) (v k : Value) :
    (entries.insert key v).get? k = if Value.same key k then some v else entries.get? k := by
  induction entries with
  | nil => simp [Entries.insert, get?_cons]
  | cons e rest ih =>
    obtain ⟨l, x⟩ := e
    by_cases h : Value.same l key = true
    · obtain rfl := (Value.same_of_isString hs).1 h
      simp only [Entries.insert, h, if_true, get?_cons]
      split <;> rfl
    · have hne : Value.same key k = true → Value.same l k = false := by
        intro hk
        obtain ⟨s, rfl⟩ := Value.isString_iff.1 hs
        obtain rfl := Value.string_same.1 hk
        simpa only [Bool.not_eq_true] using h
      simp only [Entries.insert, h, Bool.false_eq_true, if_false, get?_cons, ih]
      by_cases hk : Value.same key k = true
      · simp [hk, hne hk]
      · simp [hk]

lemma get?_erase {entries : Entries} {key : Value} (hs : key.isString = true) (k : Value) :
    (entries.erase key).get? k = if Value.same key k then none else entries.get? k := by
  obtain ⟨s, rfl⟩ := Value.isString_iff.1 hs
  induction entries with
  | nil => simp [Entries.erase]
  | cons e rest ih =>
    obtain ⟨l, x⟩ := e
    have hcons : Entries.erase ((l, x) :: rest) (.string s) =
        if Value.same l (.string s) then Entries.erase rest (.string s)
        else (l, x) :: Entries.erase rest (.string s) := by
      cases h : Value.same l (.string s) <;> simp [Entries.erase, h]
    rw [hcons]
    by_cases h : Value.same l (.string s) = true
    · obtain rfl := Value.same_string.1 h
      rw [if_pos h, ih, get?_cons]
      split <;> rfl
    · rw [if_neg h, get?_cons, get?_cons, ih]
      by_cases hk : Value.same (.string s) k = true
      · obtain rfl := Value.string_same.1 hk
        rw [if_pos hk, if_pos hk, if_neg h]
      · rw [if_neg hk, if_neg hk]

lemma HasDistinctKeys.erase {entries : Entries} (hd : entries.HasDistinctKeys) (key : Value) :
    (entries.erase key).HasDistinctKeys := List.Pairwise.filter _ hd

section

variable {P : Value → Prop} {entries : Entries} (h : ∀ e ∈ entries, P e.1)

include h

lemma forall_keys_erase (key : Value) : ∀ e ∈ entries.erase key, P e.1 :=
  fun e he => h e (List.mem_filter.1 he).1

/-- What holds of all keys and of a new one holds of the keys after the insertion. -/
lemma forall_keys_insert {key : Value} (hk : P key) (v : Value) :
    ∀ e ∈ entries.insert key v, P e.1 := by
  have hkeys : ∀ k ∈ (entries.insert key v).keys, P k := by
    intro k hm
    rw [keys_insert] at hm
    split at hm
    · obtain ⟨e, he, rfl⟩ := List.mem_map.1 hm
      exact h e he
    · rcases List.mem_append.1 hm with hm | hm
      · obtain ⟨e, he, rfl⟩ := List.mem_map.1 hm
        exact h e he
      · obtain rfl := List.mem_singleton.1 hm
        exact hk
  exact fun e he => hkeys e.1 (List.mem_map_of_mem he)

end

lemma hasDistinctKeys_iff {entries : Entries} :
    entries.HasDistinctKeys ↔ entries.keys.Pairwise fun k l => Value.same k l = false := by
  simp [HasDistinctKeys, keys, List.pairwise_map]

lemma HasDistinctKeys.insert {entries : Entries} (hd : entries.HasDistinctKeys) (key v : Value) :
    (entries.insert key v).HasDistinctKeys := by
  rw [hasDistinctKeys_iff, keys_insert]
  split
  · exact hasDistinctKeys_iff.1 hd
  · rename_i hc
    rw [List.pairwise_append]
    refine ⟨hasDistinctKeys_iff.1 hd, List.pairwise_singleton _ _, ?_⟩
    intro k hk l hl
    obtain rfl := List.mem_singleton.1 hl
    simp only [contains, Bool.not_eq_true, List.any_eq_false] at hc
    obtain ⟨e, he, rfl⟩ := List.mem_map.1 hk
    simpa using hc e he

/-! ### First keys -/

lemma firstKeys_of_pairwise {ks : List Value} (h : ks.Pairwise fun k l => Value.same k l = false) :
    firstKeys ks = ks := by
  induction ks with
  | nil => rfl
  | cons k rest ih =>
    obtain ⟨hk, hrest⟩ := List.pairwise_cons.1 h
    rw [firstKeys, ih hrest, List.filter_eq_self.2 fun l hl => by simp [hk l hl]]

lemma firstKeys_append (ks ls : List Value) : firstKeys (ks ++ ls) =
    firstKeys ks ++ (firstKeys ls).filter fun l => !ks.any fun k => Value.same k l := by
  induction ks with
  | nil => exact (List.filter_eq_self.2 fun _ _ => rfl).symm
  | cons k rest ih => simp [firstKeys, ih, List.filter_filter]

lemma mem_firstKeys {ks : List Value} (hs : ∀ k ∈ ks, k.isString = true) {k : Value} :
    k ∈ firstKeys ks ↔ k ∈ ks := by
  induction ks with
  | nil => rfl
  | cons l rest ih =>
    have ih := ih fun k hk => hs k (List.mem_cons_of_mem _ hk)
    obtain ⟨s, rfl⟩ := Value.isString_iff.1 (hs l (List.mem_cons_self ..))
    rw [firstKeys, List.mem_cons, List.mem_cons, List.mem_filter, ih]
    by_cases hk : k = .string s
    · simp [hk]
    · have : Value.same (.string s) k = false := by simpa [← Bool.not_eq_true] using hk
      simp [hk, this]

/-! ### Several entries -/

@[simp] lemma update_nil (entries : Entries) : entries.update [] = entries := rfl

@[simp] lemma update_cons (entries : Entries) (e : Value × Value) (more : Entries) :
    entries.update (e :: more) = (entries.insert e.1 e.2).update more := rfl

lemma HasDistinctKeys.update {entries : Entries} (hd : entries.HasDistinctKeys) (more : Entries) :
    (entries.update more).HasDistinctKeys := by
  induction more generalizing entries with
  | nil => exact hd
  | cons e rest ih => exact ih (hd.insert e.1 e.2)

/-- Keys that are new come behind those that are there, in the order of their first entries. -/
lemma keys_update {entries more : Entries} (hs : more.HasStringKeys) :
    (entries.update more).keys =
      entries.keys ++ (firstKeys more.keys).filter fun k => !entries.contains k := by
  induction more generalizing entries with
  | nil => simp [keys, firstKeys]
  | cons e rest ih =>
    obtain ⟨key, v⟩ := e
    have hkey : key.isString = true := hs _ (List.mem_cons_self ..)
    have hfirst : firstKeys (keys ((key, v) :: rest)) =
        key :: (firstKeys (keys rest)).filter fun l => !Value.same key l := rfl
    have hnew : ((firstKeys (keys rest)).filter fun k => !(entries.insert key v).contains k) =
        ((firstKeys (keys rest)).filter fun l => !Value.same key l).filter
          fun k => !entries.contains k := by
      rw [List.filter_filter]
      refine List.filter_congr fun k _ => ?_
      rw [contains_insert hkey, Bool.not_or]
    rw [update_cons, ih fun e he => hs e (List.mem_cons_of_mem _ he), hnew, keys_insert, hfirst]
    by_cases hc : entries.contains key = true
    · rw [if_pos hc, List.filter_cons_of_neg (by simp [hc])]
    · rw [if_neg hc, List.filter_cons_of_pos (by simp [hc]), List.append_assoc,
        List.singleton_append]

lemma last?_append (xs ys : Entries) (key : Value) :
    last? (List.append xs ys) key = (last? ys key).or (last? xs key) := by
  simp [last?, List.filter_append, List.getLast?_append, Option.map_or]

lemma last?_of_not_contains {entries : Entries} {key : Value} (h : entries.contains key = false) :
    entries.last? key = none := by
  rw [last?, List.filter_eq_nil_iff.2 (List.any_eq_false.1 h)]
  rfl

/-- Among different keys, one entry has a key. -/
lemma filter_of_mem {entries : Entries} (hd : entries.HasDistinctKeys) {key v : Value}
    (hs : key.isString = true) (h : (key, v) ∈ entries) :
    List.filter (fun e => Value.same e.1 key) entries = [(key, v)] := by
  induction entries with
  | nil => simp at h
  | cons e rest ih =>
    obtain ⟨hne, hrest⟩ := List.pairwise_cons.1 hd
    rcases List.mem_cons.1 h with rfl | h
    · have hnil : List.filter (fun e => Value.same e.1 key) rest = [] := by
        refine List.filter_eq_nil_iff.2 fun f hf hk => ?_
        obtain rfl := (Value.same_of_isString hs).1 hk
        simpa [Value.same_self] using hne f hf
      simp [Value.same_self, hnil]
    · rw [List.filter_cons_of_neg (by simp [hne _ h]), ih hrest h]

lemma last?_of_mem {entries : Entries} (hd : entries.HasDistinctKeys) {key v : Value}
    (hs : key.isString = true) (h : (key, v) ∈ entries) : entries.last? key = some v := by
  simp [last?, filter_of_mem hd hs h]

/-- Among different keys, the last entry of a key is its first one. -/
lemma last?_eq_get? {entries : Entries} (hs : entries.HasStringKeys)
    (hd : entries.HasDistinctKeys) (key : Value) : entries.last? key = entries.get? key := by
  cases hg : entries.get? key with
  | none =>
    refine last?_of_not_contains (List.any_eq_false.2 fun e he => ?_)
    simp [get?_eq_none.1 hg e he]
  | some v =>
    obtain ⟨k, hm, hk⟩ := mem_of_get? hg
    have hkey : key = k := by
      obtain ⟨s, rfl⟩ := Value.isString_iff.1 (hs _ hm)
      exact Value.string_same.1 hk
    exact last?_of_mem hd (hkey ▸ hs _ hm) (hkey ▸ hm)

/-- A key has the value of its last entry among the later ones, or else the one it had. -/
lemma get?_update {entries more : Entries} (hs : more.HasStringKeys) (key : Value) :
    (entries.update more).get? key = (more.last? key).or (entries.get? key) := by
  induction more generalizing entries with
  | nil => rfl
  | cons e rest ih =>
    obtain ⟨k, v⟩ := e
    have hk : k.isString = true := hs _ (List.mem_cons_self ..)
    have hcons : last? ((k, v) :: rest) key =
        (last? rest key).or (if Value.same k key then some v else none) := by
      refine (last?_append [(k, v)] rest key).trans ?_
      congr 1
      by_cases h : Value.same k key = true <;> simp [last?, h]
    rw [update_cons, ih fun e he => hs e (List.mem_cons_of_mem _ he), get?_insert hk, hcons,
      Option.or_assoc]
    congr 1
    split <;> rfl

end JsonSchema.Entries
