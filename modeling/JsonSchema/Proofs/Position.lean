import JsonSchema.Proofs.Pointer

/-!
Which part of a value a path names.

The text of a path holds each key and each index as it is, behind a slash. Main statement: if the
paths of two violations have the same text, then both are about the same part of the value, or their
positions part in an object, at two keys of which one begins with the other one and a slash. Nothing
keeps such keys apart in a path.

The proof walks along both paths at once. In an array the next steps are numerals, in which there is
no slash, and in an object they are two keys that are equal or part at a slash.
-/

namespace JsonSchema

/-- A text that is another one, a slash, and more. -/
def SlashExtends (a b : Text) : Prop := (a ++ "/").points <+: b.points

instance (a b : Text) : Decidable (SlashExtends a b) :=
  inferInstanceAs (Decidable ((a ++ "/").points <+: b.points))

/-- Two paths in a value part in an object, at keys of which one is the other one, a slash, and
more. -/
def Value.PartAtSlash (v : Value) (p q : List Step) : Prop :=
  ∃ (steps : List Step) (members : Entries) (a b : Value),
    v.follow steps = some (.object members) ∧ a ∈ members.keys ∧ b ∈ members.keys ∧
      steps ++ [.member a] <+: p ∧ steps ++ [.member b] <+: q ∧
      (SlashExtends a.text b.text ∨ SlashExtends b.text a.text)

/-! ### Where two texts part -/

lemma points_pathText_cons (step : Step) (rest : List Step) : (pathText (step :: rest)).points =
    .char '/' :: (step.text.points ++ (pathText rest).points) := by
  simp [pathText, Text.plain]

/-- What follows the first segment of a path is empty or begins with a slash. -/
lemma slash_of_pathText {steps : List Step} {p : Point} {ps more : List Point}
    (h : (pathText steps).points = p :: ps ++ more) : p = .char '/' := by
  cases steps with
  | nil => simp [pathText, Text.plain] at h
  | cons step rest =>
    rw [points_pathText_cons, List.cons_append] at h
    exact (List.cons.inj h).1.symm

lemma points_slash (a : Text) : (a ++ "/").points = a.points ++ [.char '/'] := by
  simp [Text.plain]

/-- Two texts that go on as paths are equal, or part where one of them has a slash. -/
lemma eq_or_slash_of_append {a b : Text} {p q : List Step}
    (h : a ++ pathText p = b ++ pathText q) :
    (a = b ∧ pathText p = pathText q) ∨ SlashExtends a b ∨ SlashExtends b a := by
  have hpoints : a.points ++ (pathText p).points = b.points ++ (pathText q).points := by
    simpa using congrArg Text.points h
  have hsame : a.points = b.points → a = b ∧ pathText p = pathText q := by
    intro hab
    obtain rfl := Text.points_inj.1 hab
    exact ⟨rfl, Text.points_inj.1 (List.append_cancel_left hpoints)⟩
  rcases List.append_eq_append_iff.1 hpoints with ⟨more, hb, hp⟩ | ⟨more, ha, hq⟩
  · cases more with
    | nil => exact .inl (hsame (by simpa using hb.symm))
    | cons c cs =>
      obtain rfl := slash_of_pathText hp
      exact .inr (.inl ⟨cs, by rw [hb, points_slash]; simp⟩)
  · cases more with
    | nil => exact .inl (hsame (by simpa using ha))
    | cons c cs =>
      obtain rfl := slash_of_pathText hq
      exact .inr (.inr ⟨cs, by rw [ha, points_slash]; simp⟩)

/-- There is no slash in a numeral. -/
lemma not_slashExtends_numeral (i : Nat) (a : Text) :
    ¬SlashExtends a (toString i) := by
  rintro ⟨more, h⟩
  have hslash : '/' ∈ Nat.toDigits 10 i := by
    have hmem : Point.char '/' ∈ Text.plain (toString i).toList := by
      rw [← Text.points_ofString, ← h, points_slash]
      simp
    rw [← Nat.toList_repr, ← Nat.toString_eq_repr]
    simpa [Text.plain] using hmem
  have := Nat.isDigit_of_mem_toDigits (by omega) (by omega) hslash
  cases this

lemma eq_of_numeral {i j : Nat} (h : toString i = toString j) : i = j := by
  have hdigits : Nat.toDigits 10 i = Nat.toDigits 10 j := by
    rw [← Nat.toList_repr, ← Nat.toList_repr, ← Nat.toString_eq_repr, h, Nat.toString_eq_repr]
  rw [← Nat.ofDigitChars_ten_toDigits (n := i), hdigits, Nat.ofDigitChars_ten_toDigits]

/-! ### Steps and paths with the same text -/

namespace Value

/-- A step into an object whose keys are strings goes to the member under a key. -/
lemma mem_of_child? {entries : Entries} (hs : entries.HasStringKeys) {step : Step} {w : Value}
    (h : (object entries).child? step = some w) :
    ∃ key, step = .member key ∧ key.isString = true ∧ (key, w) ∈ entries := by
  cases step with
  | element index => cases h
  | member key =>
    obtain ⟨k, hm, hsame⟩ := Entries.mem_of_get? h
    have hk := hs _ hm
    obtain ⟨name, rfl⟩ := isString_iff.1 hk
    rw [string_same] at hsame
    exact ⟨key, rfl, hsame ▸ hk, hsame ▸ hm⟩

/-- Two steps from one value whose texts go on alike are one step, or go to members whose keys part
at a slash. -/
lemma step_eq_or_part {v w u : Value} {s t : Step} {p q : List Step}
    (hv : ∀ entries : Entries, v = .object entries → entries.HasStringKeys)
    (hs : v.child? s = some w) (ht : v.child? t = some u)
    (h : s.text ++ pathText p = t.text ++ pathText q) :
    (s = t ∧ pathText p = pathText q) ∨ v.PartAtSlash (s :: p) (t :: q) := by
  have hcases := eq_or_slash_of_append h
  cases v with
  | object entries =>
    obtain ⟨a, rfl, ha, hma⟩ := mem_of_child? (hv _ rfl) hs
    obtain ⟨b, rfl, hb, hmb⟩ := mem_of_child? (hv _ rfl) ht
    rcases hcases with ⟨hab, hrest⟩ | hpart
    · obtain ⟨_, rfl⟩ := isString_iff.1 ha
      obtain ⟨_, rfl⟩ := isString_iff.1 hb
      exact .inl ⟨congrArg (fun text => Step.member (.string text)) hab, hrest⟩
    · exact .inr ⟨[], entries, a, b, rfl, List.mem_map_of_mem hma, List.mem_map_of_mem hmb,
        ⟨p, rfl⟩, ⟨q, rfl⟩, hpart⟩
  | array kind items =>
    cases s with
    | member key => cases hs
    | element i =>
      cases t with
      | member key => cases ht
      | element j =>
        rcases hcases with ⟨hij, hrest⟩ | hpart | hpart
        · exact .inl ⟨congrArg Step.element (eq_of_numeral (Text.ofString_inj.1 hij)), hrest⟩
        · exact absurd hpart (not_slashExtends_numeral j _)
        · exact absurd hpart (not_slashExtends_numeral i _)
  | _ => cases hs

/-- Paths that part below a step part. -/
lemma PartAtSlash.below {v w : Value} {s : Step} {p q : List Step} (hs : v.child? s = some w)
    (h : w.PartAtSlash p q) : v.PartAtSlash (s :: p) (s :: q) := by
  obtain ⟨steps, members, a, b, hm, ha, hb, hp, hq, hpart⟩ := h
  refine ⟨s :: steps, members, a, b, ?_, ha, hb, ?_, ?_, hpart⟩
  · rw [follow_cons, hs]
    exact hm
  · exact (List.prefix_cons_inj s).2 hp
  · exact (List.prefix_cons_inj s).2 hq

/-- Two paths in one value whose texts are equal are one path, or part at a slash. -/
lemma path_eq_or_part {v w u : Value} (hv : v.EveryObject Entries.HasStringKeys)
    {p q : List Step} (hp : v.follow p = some w) (hq : v.follow q = some u)
    (h : pathText p = pathText q) : p = q ∨ v.PartAtSlash p q := by
  induction p generalizing v q with
  | nil => exact .inl (eq_nil_of_pathText h.symm).symm
  | cons s p ih =>
    cases q with
    | nil => exact .inl (eq_nil_of_pathText h)
    | cons t q =>
      obtain ⟨v', hs, hp⟩ := Option.bind_eq_some_iff.1 hp
      obtain ⟨v'', ht, hq⟩ := Option.bind_eq_some_iff.1 hq
      have htext : s.text ++ pathText p = t.text ++ pathText q := by
        simpa [pathText, Text.append_assoc] using h
      rcases step_eq_or_part (fun entries he => (he ▸ hv).here) hs ht htext with
        ⟨rfl, hrest⟩ | hpart
      · obtain rfl := Option.some.inj (hs.symm.trans ht)
        have hbelow : v'.EveryObject Entries.HasStringKeys :=
          hv.of_follow (by rw [follow_cons, hs]; rfl : v.follow [s] = some v')
        rcases ih hbelow hp hq hrest with rfl | hpart
        · exact .inl rfl
        · exact .inr (hpart.below hs)
      · exact .inr hpart

end Value

/-! ### Violations and positions -/

/-- The path of a violation leads to a part of the value. -/
lemma Spot.Has.position {s : Spot} {violation : Violation} (h : s.Has violation) :
    ∃ p part, s.value.follow p = some part ∧ violation.valuePath = s.place.value.extend p := by
  rcases h with ⟨q, p, -, hp, hplace⟩ | ⟨t, ⟨q, p, -, hp, hplace⟩, hn⟩
  · exact ⟨p, _, hp, congrArg Place.value hplace⟩
  · obtain ⟨_, _, _, -, -, -, -, -, -, -, hpath⟩ := hn
    exact ⟨p, _, hp, hpath.trans (congrArg Place.value hplace)⟩

namespace Validation

/-- **A path names one part of the value**, unless keys part at a slash. Violations with paths of
the same text are about the same position, or their positions part in an object, at two keys of
which one is the other one, a slash, and more. -/
theorem position_of_valuePath {schema value : Value} {place : Place} {violations : List Violation}
    (hs : schema.EveryObject Entries.HasDistinctKeys)
    (hv : value.EveryObject fun members => members.HasStringKeys ∧ members.HasDistinctKeys)
    (h : (validate schema value place).result = .ok (.invalid violations)) :
    ∀ v ∈ violations, ∀ w ∈ violations, v.valuePath.text = w.valuePath.text →
      ∃ p q part other, value.follow p = some part ∧ value.follow q = some other ∧
        v.valuePath = place.value.extend p ∧ w.valuePath = place.value.extend q ∧
        (p = q ∨ value.PartAtSlash p q) := by
  intro v hvmem w hwmem htext
  have hpoints := Spot.WellKeyed.points (s := ⟨schema, value, place⟩) ⟨hs, hv⟩ _ h
  obtain ⟨p, part, hp, hvpath⟩ := (hpoints v hvmem).position
  obtain ⟨q, other, hq, hwpath⟩ := (hpoints w hwmem).position
  refine ⟨p, q, part, other, hp, hq, hvpath, hwpath, ?_⟩
  rw [hvpath, hwpath, Location.text_extend, Location.text_extend] at htext
  exact Value.path_eq_or_part (fun steps entries he => (hv steps entries he).1) hp hq
    (Text.append_right_inj.1 htext)

lemma exists_pair_of_map {α : Type} {f : Violation → α} {verdict : Verdict} {a b : α}
    (h : verdict.violations.map f = [a, b]) :
    ∃ v w, verdict = .invalid [v, w] ∧ f v = a ∧ f w = b := by
  cases verdict with
  | valid result => cases h
  | invalid violations =>
    obtain ⟨v, rest, rfl, hv, hrest⟩ := List.map_eq_cons_iff.1 h
    obtain ⟨w, more, rfl, hw, hmore⟩ := List.map_eq_cons_iff.1 hrest
    obtain rfl := List.map_eq_nil_iff.1 hmore
    exact ⟨v, w, rfl, hv, hw⟩

/-- A node that refuses an element for two reasons, below a key with a slash. -/
def slashedSchema : Value :=
  .object [(.string "type", .string "object"),
    (.string "properties", .object [(.string "a/b", .object [(.string "type", .string "array"),
      (.string "items", .object [(.string "type", .string "string"),
        (.string "const", .string "x")])])])]

def slashedValue : Value :=
  .object [(.string "a/b", .list [.string "x", .int 7]), (.string "b", .null)]

theorem position_of_valuePath_slashed :
    slashedSchema.EveryObject Entries.HasDistinctKeys ∧
      (slashedValue.EveryObject fun members => members.HasStringKeys ∧ members.HasDistinctKeys) ∧
      ∃ v w, (validate slashedSchema slashedValue .start).result = .ok (.invalid [v, w]) ∧
        v.reason.message = "Value should have been a string but was of type number" ∧
        w.reason.message = "Value should have been exactly 'x'" ∧
        v.valuePath.text = "#/a/b/1" ∧ w.valuePath.text = "#/a/b/1" ∧
        v.valuePath = w.valuePath := by
  have hs : slashedSchema.EveryObject Entries.HasDistinctKeys := by
    have hitems : Value.EveryObject Entries.HasDistinctKeys
        (.object [(.string "type", .string "string"), (.string "const", .string "x")]) :=
      .object (by decide +kernel) (by simpa using ⟨.leaf rfl, .leaf rfl⟩)
    have hlist : Value.EveryObject Entries.HasDistinctKeys
        (.object [(.string "type", .string "array"), (.string "items", .object
          [(.string "type", .string "string"), (.string "const", .string "x")])]) :=
      .object (by decide +kernel) (by simpa using ⟨.leaf rfl, hitems⟩)
    refine .object (by decide +kernel) ?_
    simpa using ⟨.leaf rfl, .object (by decide +kernel) (by simpa using hlist)⟩
  have hv : slashedValue.EveryObject fun members =>
      (members.HasStringKeys ∧ members.HasDistinctKeys) ∧
        ∀ a ∈ members.keys, ∀ b ∈ members.keys, ¬SlashExtends a.text b.text := by
    refine .object (by decide +kernel) ?_
    simpa using ⟨.array (by simpa using ⟨.leaf rfl, .leaf rfl⟩), .leaf rfl⟩
  have hkeys : slashedValue.EveryObject fun members =>
      members.HasStringKeys ∧ members.HasDistinctKeys :=
    fun steps members hm => (hv steps members hm).1
  obtain ⟨verdict, h, htold⟩ := exists_of_any (show
    (validate slashedSchema slashedValue .start).result.toOption.any (fun verdict =>
      verdict.violations.map (fun v => (v.reason.message, v.valuePath.text)) =
        ([("Value should have been a string but was of type number", "#/a/b/1"),
          ("Value should have been exactly 'x'", "#/a/b/1")] : List (Text × Text))) = true
      by decide +kernel)
  obtain ⟨v, w, rfl, hvtold, hwtold⟩ := exists_pair_of_map (of_decide_eq_true htold)
  obtain ⟨hvreason, hvpath⟩ := Prod.mk.inj hvtold
  obtain ⟨hwreason, hwpath⟩ := Prod.mk.inj hwtold
  refine ⟨hs, hkeys, v, w, h, hvreason, hwreason, hvpath, hwpath, ?_⟩
  obtain ⟨p, q, -, -, -, -, hp, hq, rfl | ⟨steps, members, a, b, hm, ha, hb, -, -, hpart⟩⟩ :=
    position_of_valuePath hs hkeys h v (by simp) w (by simp) (hvpath.trans hwpath.symm)
  · rw [hp, hq]
  · have hno := (hv steps members hm).2
    exact absurd hpart (not_or.2 ⟨hno a ha b hb, hno b hb a ha⟩)

/-- A node that refuses the member `b` of the member `a`, and the member `a/b`. -/
def forkedSchema : Value :=
  .object [(.string "type", .string "object"),
    (.string "properties", .object [(.string "a", .object [(.string "type", .string "object"),
      (.string "properties", .object [(.string "b", .bool false)])]),
      (.string "a/b", .bool false)])]

def forkedValue : Value :=
  .object [(.string "a", .object [(.string "b", .bool true)]), (.string "a/b", .bool true)]

/-- Two positions of one value may have the same path. -/
theorem valuePath_shared :
    (forkedValue.EveryObject fun members => members.HasStringKeys ∧ members.HasDistinctKeys) ∧
      ∃ v w, (validate forkedSchema forkedValue .start).result = .ok (.invalid [v, w]) ∧
        v.valuePath.text = w.valuePath.text ∧
        v.valuePath.steps.map Step.text = (["a", "b"] : List Text) ∧
        w.valuePath.steps.map Step.text = (["a/b"] : List Text) ∧ v.valuePath ≠ w.valuePath := by
  have hv : forkedValue.EveryObject fun members =>
      members.HasStringKeys ∧ members.HasDistinctKeys := by
    refine .object (by decide +kernel) ?_
    simpa using ⟨.object (by decide +kernel) (by simpa using .leaf rfl), .leaf rfl⟩
  obtain ⟨verdict, h, htold⟩ := exists_of_any (show
    (validate forkedSchema forkedValue .start).result.toOption.any (fun verdict =>
      verdict.violations.map (fun v => (v.valuePath.text, v.valuePath.steps.map Step.text)) =
        ([("#/a/b", ["a", "b"]), ("#/a/b", ["a/b"])] : List (Text × List Text))) = true
      by decide +kernel)
  obtain ⟨v, w, rfl, hvtold, hwtold⟩ := exists_pair_of_map (of_decide_eq_true htold)
  obtain ⟨hvpath, hvsteps⟩ := Prod.mk.inj hvtold
  obtain ⟨hwpath, hwsteps⟩ := Prod.mk.inj hwtold
  refine ⟨hv, v, w, h, hvpath.trans hwpath.symm, hvsteps, hwsteps, fun heq => ?_⟩
  rw [heq, hwsteps] at hvsteps
  exact absurd hvsteps (by decide)

end Validation

end JsonSchema
