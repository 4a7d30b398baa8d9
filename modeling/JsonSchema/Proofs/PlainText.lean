import JsonSchema.Proofs.Carried.Verdict
import JsonSchema.Proofs.Text
import JsonSchema.Value.Indented

/-!
Values whose strings are plain.

What is written of a value, be it as a name, inside a reason or as JSON text, is put together from
its strings, from escapes and from words. Main statements: all of it is plain where all strings of
the value are, keys included; JSON text in ASCII always is; and a verdict tells plain strings only
where the schema and the value have no others.
-/

namespace JsonSchema

namespace Value

def isPlainString : Value → Bool
  | string s => s.isPlain
  | _ => true

/-- All strings inside a value are plain. -/
def HasPlainStrings (v : Value) : Prop := v.everyPart isPlainString = true

instance (v : Value) : Decidable v.HasPlainStrings :=
  inferInstanceAs (Decidable (v.everyPart isPlainString = true))

lemma isPlain_text {v : Value} (h : v.HasPlainStrings) : v.text.isPlain = true := by
  cases v with
  | string s => exact h
  | _ => rfl

/-- No verdict tells a string with a half in it, where schema and value have none. -/
lemma isCarried_isPlainString : IsCarried isPlainString fun _ => true where
  undefined := rfl
  null := rfl
  bool _ := rfl
  byte _ := rfl
  word _ := rfl
  letter s hs x hx := by
    rw [isPlainString, Text.isPlain_iff] at hs ⊢
    rw [Text.points_ofPoints]
    exact List.forall_mem_singleton.2 (hs x hx)
  name _ := isPlain_text
  array _ _ := rfl
  object _ := iff_of_true rfl fun _ _ => rfl

lemma hasPlainStrings_array {kind : ArrayKind} {items : List Value} :
    (array kind items).HasPlainStrings ↔ ∀ v ∈ items, v.HasPlainStrings :=
  isCarried_isPlainString.everyPart_array

lemma hasPlainStrings_object {entries : Entries} : (object entries).HasPlainStrings ↔
    ∀ e ∈ entries, e.1.HasPlainStrings ∧ e.2.HasPlainStrings := by
  rw [HasPlainStrings, isCarried_isPlainString.everyPart_object]
  simp [HasPlainStrings]

/-! ### Values in reasons -/

lemma renderItems_eq (items : List Value) :
    renderItems items = items.map fun v => if v.isNull then Text.ofString "" else v.render := by
  induction items with
  | nil => rfl
  | cons v rest ih => rw [renderItems, ih, List.map_cons]

lemma isPlain_render {v : Value} (h : v.HasPlainStrings) : v.render.isPlain = true := by
  induction v using Value.induction_on with
  | leaf v hv =>
    cases v with
    | bool b => cases b <;> rfl
    | string s => exact h
    | array => cases hv
    | _ => rfl
  | array kind items ih =>
    rw [render, renderItems_eq]
    refine Text.isPlain_join rfl (List.forall_mem_map.2 fun v hv => ?_)
    split
    · rfl
    · exact ih v hv (hasPlainStrings_array.1 h v hv)
  | object | set => rfl

lemma mem_of_distinctFields {α : Type} {fields : List (Text × α)} {f : Text × α}
    (h : f ∈ distinctFields fields) : f ∈ fields := by
  have hgo : ∀ done : List (Text × α),
      f ∈ fields.foldl (fun done f => putField done f.1 f.2) done → f ∈ done ∨ f ∈ fields := by
    clear h
    induction fields with
    | nil => exact fun done h => .inl h
    | cons g rest ih =>
      intro done h
      rcases ih (putField done g.1 g.2) h with h | h
      · unfold putField at h
        split at h
        · obtain ⟨e, he, rfl⟩ := List.mem_map.1 h
          split
          · exact .inr List.mem_cons_self
          · exact .inl he
        · rcases List.mem_append.1 h with h | h
          · exact .inl h
          · exact .inr (List.mem_cons.2 (.inl (List.mem_singleton.1 h)))
      · exact .inr (List.mem_cons_of_mem _ h)
  exact (hgo [] h).resolve_left List.not_mem_nil

lemma jsonTexts_eq (items : List Value) : jsonTexts items = items.map jsonText := by
  induction items with
  | nil => rfl
  | cons v rest ih => rw [jsonTexts, ih, List.map_cons]

lemma jsonFields_eq (entries : Entries) :
    jsonFields entries = List.map (fun e => (e.1.text, jsonText e.2)) entries := by
  induction entries with
  | nil => rfl
  | cons e rest ih => rw [jsonFields, ih, List.map_cons]

theorem isPlain_jsonText {v : Value} (h : v.HasPlainStrings) : v.jsonText.isPlain = true := by
  induction v using Value.induction_on with
  | leaf v hv =>
    cases v with
    | bool b => cases b <;> rfl
    | array | object | set => cases hv
    | string s => exact Text.isPlain_inQuotes h
    | null | number => rfl
    | undefined | date | datetime | bytes => exact Text.isPlain_inQuotes rfl
  | array kind items ih =>
    rw [jsonText, jsonTexts_eq]
    exact Text.isPlain_between (Text.isPlain_join rfl (List.forall_mem_map.2 fun v hv =>
      ih v hv (hasPlainStrings_array.1 h v hv)))
  | object entries ih =>
    rw [jsonText, jsonFields_eq]
    refine Text.isPlain_between (Text.isPlain_join rfl (List.forall_mem_map.2 fun f hf => ?_))
    obtain ⟨e, he, rfl⟩ := List.mem_map.1 (mem_of_distinctFields hf)
    obtain ⟨hkey, hvalue⟩ := hasPlainStrings_object.1 h e he
    refine Text.isPlain_append.2 ⟨Text.isPlain_append.2 ⟨?_, rfl⟩, ih e he hvalue⟩
    exact Text.isPlain_inQuotes (isPlain_text hkey)
  | set => exact Text.isPlain_inQuotes rfl

end Value

/-! ### Reasons and locations -/

open Value

lemma LiteralForm.isPlain_show (form : LiteralForm) {v : Value} (h : v.HasPlainStrings) :
    (form.show v).isPlain = true := by
  cases form with
  | plain => exact isPlain_render h
  | quoted => exact Text.isPlain_between (isPlain_render h)
  | json => exact isPlain_jsonText h

theorem Reason.isPlain_message {reason : Reason} (h : HoldsOf isPlainString reason.values) :
    reason.message.isPlain = true := by
  have hone {v : Value} (h : HoldsOf isPlainString [v]) : v.HasPlainStrings :=
    h v List.mem_cons_self
  cases reason with
  | const form v => exact Text.isPlain_append.2 ⟨rfl, form.isPlain_show (hone h)⟩
  | enum form vs =>
    exact Text.isPlain_between (Text.isPlain_join rfl
      (List.forall_mem_map.2 fun v hv => form.isPlain_show (h v hv)))
  | shorterThan v | longerThan v | fewerProperties v | moreProperties v =>
    exact Text.isPlain_between (isPlain_render (hone h))
  | outside _ v | multipleOf v => exact Text.isPlain_append.2 ⟨rfl, isPlain_render (hone h)⟩
  | pattern text => exact Text.isPlain_between (hone h)
  | missing names =>
    exact Text.isPlain_between (Text.isPlain_join rfl fun name hname =>
      h _ (List.mem_map.2 ⟨name, hname, rfl⟩))
  | additional keys =>
    exact Text.isPlain_between (Text.isPlain_join rfl
      (List.forall_mem_map.2 fun key hkey => isPlain_text (h key hkey)))
  | falseSchema | absent | mismatch | notInteger | tupleLength | stated => rfl

theorem Location.isPlain_text {location : Location} (h : HoldsOf isPlainString location.values) :
    location.text.isPlain = true := by
  have hsteps : ∀ step ∈ location.steps, step.text.isPlain = true := by
    intro step hstep
    have hvalues := holdsOf_flatMap.1 h step hstep
    cases step with
    | member key => exact Value.isPlain_text (hvalues key List.mem_cons_self)
    | element => rfl
  have hgo : ∀ (steps : List Step) (s : Text), (∀ step ∈ steps, step.text.isPlain = true) →
      s.isPlain = true →
      (steps.foldl (fun (s : Text) step => s ++ "/" ++ step.text) s).isPlain = true := by
    intro steps
    induction steps with
    | nil => exact fun s _ hs => hs
    | cons step rest ih =>
      intro s h hs
      obtain ⟨hstep, hrest⟩ := List.forall_mem_cons.1 h
      exact ih _ hrest (Text.isPlain_append.2 ⟨Text.isPlain_append.2 ⟨hs, rfl⟩, hstep⟩)
  exact hgo location.steps _ hsteps rfl

/-! ### JSON text over several lines -/

namespace Value

/-- Only strings in raw quotes have to be plain themselves. -/
def IsQuotable (q : Quoting) (v : Value) : Prop := q = .raw → v.HasPlainStrings

lemma isPlain_quote {q : Quoting} {t : Text} (h : q = .raw → t.isPlain = true) :
    (q.quote t).isPlain = true := by
  cases q with
  | raw => exact Text.isPlain_inQuotes (h rfl)
  | ascii => rfl

lemma isPlain_keyText {key : Value} (h : key.HasPlainStrings) :
    AnswersAre (·.isPlain = true) key.keyText := by
  cases key with
  | string s => exact .ok h
  | null => exact .ok rfl
  | bool b => exact .ok (by cases b <;> rfl)
  | number x => exact .map (P := fun _ => True) (fun _ _ => trivial) fun _ _ => rfl
  | _ => exact .error _

lemma isPlain_enclosedLines {left right : String} {level : Nat} {parts : List Text}
    (h : ∀ t ∈ parts, t.isPlain = true) :
    (enclosedLines left right level parts).isPlain = true := by
  unfold enclosedLines
  split
  · rfl
  · have hjoin : (Text.join ("," ++ lineStart (level + 1)) parts).isPlain = true :=
      Text.isPlain_join rfl h
    refine Text.isPlain_append.2 ⟨Text.isPlain_append.2 ⟨?_, rfl⟩, rfl⟩
    exact Text.isPlain_append.2 ⟨rfl, hjoin⟩

mutual

/-- JSON text has no halves where the quoted strings have none, and in ASCII it has none at all. -/
theorem isPlain_indented (q : Quoting) : (level : Nat) → (v : Value) → v.IsQuotable q →
    AnswersAre (·.isPlain = true) (indented q level v)
  | _, number _, _ => .map (P := fun _ => True) (fun _ _ => trivial) fun _ _ => rfl
  | _, string _, h => .ok (isPlain_quote h)
  | level, array _ items, h =>
    .map (isPlain_indentedItems q (level + 1) items fun v hv hq =>
      hasPlainStrings_array.1 (h hq) v hv) fun _ => isPlain_enclosedLines
  | level, object entries, h =>
    .map (isPlain_indentedEntries q (level + 1) entries fun e he =>
      ⟨fun hq => (hasPlainStrings_object.1 (h hq) e he).1,
        fun hq => (hasPlainStrings_object.1 (h hq) e he).2⟩) fun _ => isPlain_enclosedLines
  | _, null, _ => .ok rfl
  | _, bool b, _ => .ok (by cases b <;> rfl)
  | _, undefined, _ | _, date _, _ | _, datetime _, _ | _, bytes _, _ | _, set _, _ =>
    .ok (isPlain_quote fun _ => rfl)

theorem isPlain_indentedItems (q : Quoting) : (level : Nat) → (items : List Value) →
    (∀ v ∈ items, v.IsQuotable q) →
    AnswersAre (∀ t ∈ ·, t.isPlain = true) (indentedItems q level items)
  | _, [], _ => .ok (List.forall_mem_nil _)
  | level, v :: rest, h => by
    obtain ⟨hv, hrest⟩ := List.forall_mem_cons.1 h
    refine .bind (isPlain_indented q level v hv) fun _ ht => ?_
    exact .bind (isPlain_indentedItems q level rest hrest) fun _ hts =>
      .ok (List.forall_mem_cons.2 ⟨ht, hts⟩)

theorem isPlain_indentedEntries (q : Quoting) : (level : Nat) →
    (entries : List (Value × Value)) → (∀ e ∈ entries, IsQuotable q e.1 ∧ IsQuotable q e.2) →
    AnswersAre (∀ t ∈ ·, t.isPlain = true) (indentedEntries q level entries)
  | _, [], _ => .ok (List.forall_mem_nil _)
  | level, (k, v) :: rest, h => by
    obtain ⟨⟨hk, hv⟩, hrest⟩ := List.forall_mem_cons.1 h
    refine .bind (P := fun t => (q.quote t).isPlain = true) (fun t ht => ?_) fun _ hkey => ?_
    · exact isPlain_quote fun hq => isPlain_keyText (hk hq) t ht
    refine .bind (isPlain_indented q level v hv) fun _ ht => ?_
    refine .bind (isPlain_indentedEntries q level rest hrest) fun _ hts => ?_
    refine .ok (List.forall_mem_cons.2 ⟨?_, hts⟩)
    exact Text.isPlain_append.2 ⟨Text.isPlain_append.2 ⟨hkey, rfl⟩, ht⟩

end

end Value

end JsonSchema
