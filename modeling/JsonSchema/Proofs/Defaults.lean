import JsonSchema.Proofs.Path
import JsonSchema.Proofs.Stability

/-!
Defaults inside an accepted value.

Main statement: where declared properties of object nodes lead to an object, a property that it
lacks is in the result, at the place of the object, with the default that its schema has. It is
there as long as no pattern matches a member on the way: what a pattern visits is put in place of
what the declared property left, so a default filled below it is lost.

A declared member that no other visit shares its key with keeps what its own visit left; the way
down follows by induction on the names.
-/

namespace JsonSchema

open Validation

/-! ### Keys that are left alone -/

namespace Entries

lemma get?_insert_self (entries : Entries) (key v : Value) :
    (entries.insert key v).get? key = some v := by
  induction entries with
  | nil => simp [insert, get?_cons, Value.same_self]
  | cons e rest ih =>
    obtain ⟨l, w⟩ := e
    by_cases h : Value.same l key = true
    · simp [insert, h, get?_cons]
    · simp [insert, h, get?_cons, ih]

variable {entries : Entries} {key k : Value}

/-- A key that is the same as another one is the same as no key from which that one differs. -/
lemma same_eq_false {l : Value} (hl : l.isKey = true) (hk : key.isKey = true)
    (h : Value.same key k = false) (hlk : Value.same l key = true) : Value.same l k = false := by
  rw [← Bool.not_eq_true] at h ⊢
  exact fun hs => h (Value.same_trans hk hl (Value.same_symm hl hlk) hs)

lemma get?_insert_of_ne (he : ∀ e ∈ entries, e.1.isKey = true) (hk : key.isKey = true)
    (h : Value.same key k = false) (v : Value) :
    (entries.insert key v).get? k = entries.get? k := by
  induction entries with
  | nil => simp [insert, get?_cons, h]
  | cons e rest ih =>
    obtain ⟨l, w⟩ := e
    by_cases hl : Value.same l key = true
    · have hne := same_eq_false (he _ (List.mem_cons_self ..)) hk h hl
      simp [insert, hl, get?_cons, hne]
    · simp [insert, hl, get?_cons, ih fun f hf => he f (List.mem_cons_of_mem _ hf)]

lemma get?_erase_of_ne (he : ∀ e ∈ entries, e.1.isKey = true) (hk : key.isKey = true)
    (h : Value.same key k = false) : (entries.erase key).get? k = entries.get? k := by
  induction entries with
  | nil => rfl
  | cons e rest ih =>
    obtain ⟨l, w⟩ := e
    have ih := ih fun f hf => he f (List.mem_cons_of_mem _ hf)
    rw [erase] at ih ⊢
    by_cases hl : Value.same l key = true
    · have hne := same_eq_false (he _ (List.mem_cons_self ..)) hk h hl
      simp [hl, get?_cons, hne, ih]
    · simp [hl, get?_cons, ih]

end Entries

namespace Validation.ObjectPart

/-- Visits of other keys leave what is under a key. -/
lemma get?_mergeAll_of_ne {part : ObjectPart} (he : ∀ e ∈ part.members, e.1.isKey = true)
    {visits : List Visit} {key : Value}
    (h : ∀ v ∈ visits, v.key.isKey = true ∧ Value.same v.key key = false) :
    (part.mergeAll visits).members.get? key = part.members.get? key := by
  induction visits generalizing part with
  | nil => rfl
  | cons v rest ih =>
    obtain ⟨hk, hne⟩ := h v (List.mem_cons_self ..)
    have hkeys := forall_keys_merge (P := (·.isKey = true)) he hk
    rw [mergeAll_cons, ih hkeys fun u hu => h u (List.mem_cons_of_mem _ hu), merge_members]
    split
    · exact Entries.get?_erase_of_ne he hk hne
    · exact Entries.get?_insert_of_ne he hk hne _

/-- A visit that leaves a value decides what is under its key if no later one has the key. -/
lemma get?_mergeAll_of_last {part : ObjectPart} (he : ∀ e ∈ part.members, e.1.isKey = true)
    {before after : List Visit} {v : Visit} (hb : ∀ u ∈ before, u.key.isKey = true)
    (hv : v.key.isKey = true) (hw : v.result.isUndefined = false)
    (ha : ∀ u ∈ after, u.key.isKey = true ∧ Value.same u.key v.key = false) :
    (part.mergeAll (before ++ v :: after)).members.get? v.key = some v.result := by
  have hbefore := forall_keys_mergeAll (P := (·.isKey = true)) he hb
  have hkeys := forall_keys_merge (P := (·.isKey = true)) hbefore hv
  rw [mergeAll_append, mergeAll_cons, get?_mergeAll_of_ne hkeys ha, merge_members,
    if_neg (by simp [hw])]
  exact Entries.get?_insert_self _ _ _

end Validation.ObjectPart

/-! ### Declared members of an accepted object -/

namespace Validation

/-- No pattern of a node matches the key of a member under a name. -/
def NoPatternTakes (keywords members : Entries) (name : Value) : Prop :=
  ∀ e ∈ members, Value.same e.1 name = true →
    ∀ p ∈ childrenOf keywords "patternProperties", matchesPattern p.1 e.1.text = false

instance (keywords members : Entries) (name : Value) :
    Decidable (NoPatternTakes keywords members name) :=
  inferInstanceAs (Decidable (∀ e ∈ members, _ → ∀ p ∈ childrenOf keywords "patternProperties", _))

/-- No pattern takes a member that is not there. -/
lemma noPatternTakes_of_not_contains {keywords members : Entries} {name : Value}
    (h : members.contains name = false) : NoPatternTakes keywords members name :=
  fun e he hs => absurd hs (by simpa using List.any_eq_false.1 h e he)

section

variable {keywords members : Entries} {place : Place} (hm : members.IsKeyed)
  {e : Value × Value}

include hm

lemma not_same_of_pattern (hn : NoPatternTakes keywords members e.1) {v : Visit}
    (hv : v ∈ patternVisits keywords members place) :
    v.key.isKey = true ∧ Value.same v.key e.1 = false := by
  obtain ⟨p, hp, f, hf, hmatch, rfl⟩ := mem_patternVisits.1 hv
  refine ⟨hm.keys f hf, ?_⟩
  rw [← Bool.not_eq_true]
  intro hsame
  rw [hn f hf hsame p hp] at hmatch
  cases hmatch

/-- A member is not additional where its declared property takes it. -/
lemma not_same_of_additional (he : e ∈ childrenOf keywords "properties")
    (hs : (declaredVisit members place e).isSuppressed = false) {v : Visit}
    (hv : v ∈ additionalVisits keywords members place) :
    v.key.isKey = true ∧ Value.same v.key e.1 = false := by
  obtain ⟨f, hf, rfl⟩ := List.mem_map.1 hv
  obtain ⟨hmem, -, hextra⟩ := mem_extras.1 hf
  refine ⟨hm.keys f hmem, ?_⟩
  rw [← Bool.not_eq_true]
  intro hsame
  simp only [isExtra, Bool.and_eq_true, List.all_eq_true] at hextra
  have hself := hextra.2 _ (List.mem_map_of_mem he)
  rw [hs, Bool.or_false, Bool.not_eq_true'] at hself
  rw [show (declaredVisit members place e).key = e.1 from rfl,
    Value.same_symm (hm.keys f hmem) hsame] at hself
  cases hself

/-- What a declared member becomes is in the completed object, unless a pattern takes the member. -/
lemma get?_completedMembers_of_declared (hp : (childrenOf keywords "properties").IsKeyed)
    (he : e ∈ childrenOf keywords "properties") (hn : NoPatternTakes keywords members e.1)
    (hw : (declaredVisit members place e).result.isUndefined = false) :
    (completedMembers keywords members place).get? e.1 =
      some (declaredVisit members place e).result := by
  have hs := Visit.isSuppressed_of_result hw
  obtain ⟨before, after, hsplit⟩ := List.append_of_mem he
  have hd := hp.distinctKeys
  rw [hsplit] at hd
  obtain ⟨-, hd, -⟩ := List.pairwise_append.1 hd
  have hafter : ∀ f ∈ after, f.1.isKey = true ∧ Value.same f.1 e.1 = false := by
    intro f hf
    have hkey := hp.keys f (by simp [hsplit, hf])
    refine ⟨hkey, ?_⟩
    rw [← Bool.not_eq_true]
    intro hsame
    simpa [Value.same_symm hkey hsame] using (List.pairwise_cons.1 hd).1 f hf
  -- After its own visit, no other one has the key: later names differ, no pattern takes the
  -- member, and a declared member is not additional.
  have hvisits : mergedVisits keywords members place
        ++ (additionalVisits keywords members place).filter (!·.isSuppressed) =
      (before.map (declaredVisit members place)).filter (!·.isSuppressed)
        ++ declaredVisit members place e ::
          ((after.map (declaredVisit members place)).filter (!·.isSuppressed)
            ++ patternVisits keywords members place
            ++ (additionalVisits keywords members place).filter (!·.isSuppressed)) := by
    simp [mergedVisits, declaredVisits, hsplit, List.filter_append, hs]
  rw [completedMembers, hvisits]
  refine ObjectPart.get?_mergeAll_of_last (fun f hf => by cases hf) ?_ (hp.keys e he) hw ?_
  · intro u hu
    obtain ⟨f, hf, rfl⟩ := List.mem_map.1 (List.mem_filter.1 hu).1
    exact hp.keys f (by simp [hsplit, hf])
  · intro u hu
    simp only [List.mem_append, List.mem_filter] at hu
    rcases hu with (⟨hu, -⟩ | hu) | ⟨hu, -⟩
    · obtain ⟨f, hf, rfl⟩ := List.mem_map.1 hu
      exact hafter f hf
    · exact not_same_of_pattern hm hn hu
    · exact not_same_of_additional hm he hs hu

variable (ht : keywords.declaredType = .one .object) {result : Value}
  (h : (validate (.object keywords) (.object members) place).result = .ok (.valid result))

include ht h

lemma eq_completed_of_valid : result = .object (completedMembers keywords members place) := by
  obtain ⟨-, hverdict⟩ := validate_object_of_clear (Entries.named?_of_declaredType ht) hm.clear h
  exact (verdictOf_eq_valid.1 hverdict.symm).2.symm

/-- A declared member that is not falsy, and is put to no list of types, is accepted where the
object is. -/
lemma validate_of_declared (he : e ∈ childrenOf keywords "properties")
    (hf : (members.get e.1).falsy = false) (hu : e.2.isUnion = false) :
    (validate e.2 (members.get e.1) (place.property "properties" e.1)).result =
      .ok (.valid (declaredVisit members place e).result) := by
  obtain ⟨ha, hverdict⟩ :=
    validate_object_of_clear (Entries.named?_of_declaredType ht) hm.clear h
  obtain ⟨hnone, -⟩ := verdictOf_eq_valid.1 hverdict.symm
  have hv : declaredVisit members place e ∈ declaredVisits keywords members place :=
    List.mem_map_of_mem he
  have hanswers : (declaredVisit members place e).Answers := ha _ (by simp [objectVisits, hv])
  have hviolations := (violations_of_objectViolations_nil hnone).1 _ hv
  rw [if_neg (by simp [declaredVisit, hf])] at hviolations
  exact Visit.validate_of_isValid hanswers (Visit.isValid_of_violations hanswers hu hviolations)

end

/-- A property that is absent becomes its default. -/
lemma result_of_default {child members : Entries} {name w : Value} {place : Place}
    (ha : (members.get name).isUndefined = true) (hw : child.defined? "default" = some w) :
    (declaredVisit members place (name, .object child)).result = w := by
  have hverdict : (declaredVisit members place (name, .object child)).verdict = .valid w := by
    refine Visit.verdict_eq ?_
    simp only [declaredVisit, Value.eq_undefined ha, validate_absent, absentVerdict, hw]
    rfl
  rw [Visit.result, hverdict]

/-! ### Objects on the way down -/

/-- Declared properties of object nodes lead from a schema and a value to a node and an object, by
their names; every step is one that is allowed. -/
inductive DeclaredAt (allowed : Entries → Entries → Value → Prop) :
    Value → Value → List Value → Entries → Entries → Prop where
  | here {keywords members : Entries} (ht : keywords.declaredType = .one .object) :
    DeclaredAt allowed (.object keywords) (.object members) [] keywords members
  | step {keywords members : Entries} {name child : Value} {names : List Value}
    {keywords' members' : Entries} (ht : keywords.declaredType = .one .object)
    (hc : (name, child) ∈ childrenOf keywords "properties") (ha : allowed keywords members name)
    (h : DeclaredAt allowed child (members.get name) names keywords' members') :
    DeclaredAt allowed (.object keywords) (.object members) (name :: names) keywords' members'

section

variable {allowed : Entries → Entries → Value → Prop} {schema value : Value} {names : List Value}
  {keywords members : Entries} (h : DeclaredAt allowed schema value names keywords members)

include h

lemma DeclaredAt.isUnion : schema.isUnion = false := by
  cases h with
  | here ht => exact Entries.isUnion_of_declaredType ht
  | step ht => exact Entries.isUnion_of_declaredType ht

lemma DeclaredAt.falsy : value.falsy = false := by
  cases h <;> rfl

end

/-- **A default that is filled in reaches the result.** Where a value is accepted, a property that
a node declares with a default, and that the object of the node lacks, has the default in the
result, at the place of the object, if no pattern takes a member on the way. -/
theorem default_reaches_result {schema value result : Value} {place : Place}
    {names : List Value} {keywords members child : Entries} {name w : Value}
    (hs : schema.everyPart Value.isKeyed = true) (hv : value.everyPart Value.isKeyed = true)
    (h : (validate schema value place).result = .ok (.valid result))
    (hd : DeclaredAt NoPatternTakes schema value names keywords members)
    (hc : (name, .object child) ∈ childrenOf keywords "properties")
    (ha : (members.get name).isUndefined = true) (hn : NoPatternTakes keywords members name)
    (hw : child.defined? "default" = some w) :
    result.follow ((names ++ [name]).map .member) = some w := by
  induction hd generalizing result place with
  | @here keywords members ht =>
    have hm := Value.isKeyed_object hv
    obtain rfl := eq_completed_of_valid hm ht h
    have hresult : (declaredVisit members place (name, .object child)).result = w :=
      result_of_default ha hw
    have hget := get?_completedMembers_of_declared hm (isKeyed_childrenOf hs) hc hn
      (by rw [hresult]; exact Entries.isUndefined_of_defined? hw)
    rw [List.nil_append, List.map_singleton, Value.follow_cons, Value.child?_member, hget, hresult]
    rfl
  | @step keywords members name' child' names keywords' members' ht hc' ha' hd' ih =>
    -- The member is accepted on its own, and what it became is what the object has under its name.
    have hm := Value.isKeyed_object hv
    obtain rfl := eq_completed_of_valid hm ht h
    have hchild := validate_of_declared hm ht h hc' hd'.falsy hd'.isUnion
    have hdefined : (members.get name').isUndefined = false := by
      rw [← Bool.not_eq_true]
      intro hu
      simpa [Value.falsy_of_isUndefined hu] using hd'.falsy
    have hget := get?_completedMembers_of_declared hm (isKeyed_childrenOf hs) hc' ha'
      (isUndefined_of_valid hdefined hchild)
    have hchildren := Value.everyPart_of_get? hs (named?_of_mem_childrenOf hc')
    have hbelow := ih (Value.everyPart_of_entry hchildren _ hc').2
      (Value.everyPart_of_get hv rfl name') hchild hc ha hn
    rw [List.cons_append, List.map_cons, Value.follow_cons, Value.child?_member, hget,
      Option.bind_some, hbelow]

def faceKeywords : Entries :=
  [(.string "type", .string "object"),
    (.string "properties",
      .object [(.string "font", .object [(.string "default", .string "serif")])])]

def signKeywords : Entries :=
  [(.string "type", .string "object"),
    (.string "properties", .object [(.string "face", .object faceKeywords)]),
    (.string "patternProperties",
      .object [(.string "^x-", .object [(.string "type", .string "number")])]),
    (.string "additionalProperties", .bool false)]

def signMembers : Entries := [(.string "x-id", .int 0), (.string "face", .object [])]

/-- A node that declares a face, and accepts it under a pattern too. -/
def patchedKeywords : Entries :=
  [(.string "type", .string "object"),
    (.string "properties", .object [(.string "face", .object faceKeywords)]),
    (.string "patternProperties", .object [(.string "face", .bool true)])]

lemma childrenOf_faceKeywords : childrenOf faceKeywords "properties" =
    [(.string "font", .object [(.string "default", .string "serif")])] :=
  childrenOf_of_object (by simp [faceKeywords])

lemma declaredType_faceKeywords : faceKeywords.declaredType = .one .object :=
  Entries.declaredType_of_named? (by simp [faceKeywords, JsonType.name])

theorem default_reaches_result_sign : ∃ result,
    (validate (.object signKeywords) (.object signMembers) .start).result = .ok (.valid result) ∧
      DeclaredAt NoPatternTakes (.object signKeywords) (.object signMembers) [.string "face"]
        faceKeywords [] ∧
      result.follow [.member (.string "face"), .member (.string "font")] =
        some (.string "serif") := by
  obtain ⟨result, h⟩ := exists_of_isValid (show (validate (.object signKeywords)
    (.object signMembers) .start).result.toOption.any Verdict.isValid = true by decide +kernel)
  have hface : signMembers.get (.string "face") = .object [] := by
    simp [signMembers, Entries.get, Entries.get?_cons]
  have hchildren : childrenOf signKeywords "properties" =
      [(.string "face", .object faceKeywords)] :=
    childrenOf_of_object (by simp [signKeywords])
  have hd : DeclaredAt NoPatternTakes (.object signKeywords) (.object signMembers)
      [.string "face"] faceKeywords [] := by
    refine .step (Entries.declaredType_of_named? (by simp [signKeywords, JsonType.name]))
      (hchildren ▸ List.mem_singleton_self _) (by decide +kernel) ?_
    rw [hface]
    exact .here declaredType_faceKeywords
  refine ⟨result, h, hd, ?_⟩
  exact default_reaches_result (by decide +kernel) (by decide +kernel) h hd
    (childrenOf_faceKeywords ▸ List.mem_singleton_self _) rfl
    (noPatternTakes_of_not_contains rfl) (by simp [Entries.defined?, Value.isUndefined])

/-- A pattern puts a member back as it was, without the defaults that are declared below it. -/
theorem default_lost_under_pattern : ∃ result,
    (validate (.object patchedKeywords) (.object [(.string "face", .object [])]) .start).result =
        .ok (.valid result) ∧
      DeclaredAt (fun _ _ _ => True) (.object patchedKeywords)
        (.object [(.string "face", .object [])]) [.string "face"] faceKeywords [] ∧
      (.string "font", .object [(.string "default", .string "serif")]) ∈
        childrenOf faceKeywords "properties" ∧
      result.follow [.member (.string "face"), .member (.string "font")] = none := by
  obtain ⟨result, h, hlost⟩ := exists_of_result? (show (validate (.object patchedKeywords)
    (.object [(.string "face", .object [])]) .start).result.toOption.any (fun verdict =>
      verdict.result?.any fun result =>
        (result.follow [.member (.string "face"), .member (.string "font")]).isNone) = true by
    decide +kernel)
  have hchildren : childrenOf patchedKeywords "properties" =
      [(.string "face", .object faceKeywords)] :=
    childrenOf_of_object (by simp [patchedKeywords])
  have hd : DeclaredAt (fun _ _ _ => True) (.object patchedKeywords)
      (.object [(.string "face", .object [])]) [.string "face"] faceKeywords [] := by
    refine .step (Entries.declaredType_of_named? (by simp [patchedKeywords, JsonType.name]))
      (hchildren ▸ List.mem_singleton_self _) trivial ?_
    rw [show Entries.get [(.string "face", .object [])] (.string "face") = .object [] by
      simp [Entries.get, Entries.get?_cons]]
    exact .here declaredType_faceKeywords
  exact ⟨result, h, hd, childrenOf_faceKeywords ▸ List.mem_singleton_self _,
    Option.isNone_iff_eq_none.1 hlost⟩

end Validation

end JsonSchema
