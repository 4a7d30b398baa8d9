import JsonSchema.Proofs.Content.Alike
import JsonSchema.Proofs.PlainText
import JsonSchema.Proofs.ReadBack.Scalar

/-!
Values in JSON text are read back.

`Value.asWritten` is the value that the JSON text of a value stands for: tuples are written as lists
are, and integral doubles as the integers that they equal. The reader goes through the text of an
array or an object as the writer put it together, part by part. Main statements: the text of a
value that JSON can hold is read as the value as written, which has the same content and the same
order of members.
-/

namespace JsonSchema

/-! ### What JSON text holds -/

/-- Integral doubles are written as integers. -/
def Number.asWritten : Number → Number
  | .int n => .int n
  | .double x => (x.toInt?.map Number.int).getD (.double x)

namespace Value

/-- Whether JSON text holds a value exactly, its parts left out: a value of a kind that JSON has, a
number that is infinite or an integer within the limit on digits, a string of characters, or an
object whose keys are strings, all different. -/
def isExactPart : Value → Bool
  | number (.int n) => withinDigitLimit n
  | number (.double x) => Number.isIntegral (.double x)
  | string s => s.isPlain
  | undefined => false
  | v => v.isPlainPart

/-- JSON text holds a value and all its parts exactly. -/
def IsExact (v : Value) : Prop := v.everyPart isExactPart = true

instance (v : Value) : Decidable v.IsExact :=
  inferInstanceAs (Decidable (v.everyPart isExactPart = true))

mutual

/-- The value that the JSON text of a value stands for. -/
def asWritten : Value → Value
  | number x => number x.asWritten
  | array _ items => list (itemsAsWritten items)
  | object entries => object (entriesAsWritten entries)
  | v => v

def itemsAsWritten : List Value → List Value
  | [] => []
  | v :: rest => asWritten v :: itemsAsWritten rest

def entriesAsWritten : List (Value × Value) → List (Value × Value)
  | [] => []
  | (key, v) :: rest => (key, asWritten v) :: entriesAsWritten rest

end

lemma itemsAsWritten_eq (items : List Value) : itemsAsWritten items = items.map asWritten := by
  induction items with
  | nil => rfl
  | cons v rest ih => rw [itemsAsWritten, ih, List.map_cons]

lemma entriesAsWritten_eq (entries : Entries) :
    entriesAsWritten entries = List.map (fun e => (e.1, asWritten e.2)) entries := by
  induction entries with
  | nil => rfl
  | cons e rest ih => rw [entriesAsWritten, ih, List.map_cons]

lemma isExact_int {n : Int} : (number (.int n)).IsExact ↔ withinDigitLimit n = true := by
  simp only [IsExact, everyPart, isExactPart]

lemma isExact_array {kind : ArrayKind} {items : List Value} :
    (array kind items).IsExact ↔ ∀ v ∈ items, v.IsExact := by
  simp only [IsExact, everyPart, isExactPart, isPlainPart, Bool.true_and, everyItem_iff]

lemma isExact_object {entries : Entries} : (object entries).IsExact ↔
    (entries.HasStringKeys ∧ entries.HasDistinctKeys) ∧
      ∀ e ∈ entries, e.1.IsExact ∧ e.2.IsExact := by
  simp only [IsExact, everyPart, isExactPart, isPlainPart, Bool.and_eq_true, decide_eq_true_eq,
    everyEntry_iff]

end Value

open Value

/-! ### Numbers -/

/-- An integral double is at the place of the integer that it is written as. -/
lemma Double.rank?_of_toInt? {x : Double} {n : Int} (h : x.toInt? = some n) :
    Number.rank? (.int n) = Number.rank? (.double x) := by
  obtain ⟨s, hs, hn⟩ := Option.bind_eq_some_iff.1 h
  split_ifs at hn with hunit
  cases hn
  have hscaled : s / (Double.unit : Int) * (Double.unit : Int) = s :=
    Int.ediv_mul_cancel_of_emod_eq_zero hunit
  cases x with
  | nan | infinite => cases hs
  | finite negative exponent fraction =>
    cases hs
    simp only [Number.rank?, hscaled]

namespace Number

lemma render_of_toInt? {x : Double} {n : Int} (h : x.toInt? = some n) :
    (Number.double x).render = toString n := by
  cases x with
  | nan | infinite => cases h
  | finite negative exponent fraction => simp only [render, h]

/-- A number that JSON text holds is an integer within the limit on digits, an integral double, or
infinite. -/
inductive ExactView : Number → Prop where
  | int {n : Int} (h : withinDigitLimit n = true) : ExactView (.int n)
  | integral {x : Double} {n : Int} (h : x.toInt? = some n) : ExactView (.double x)
  | infinite (negative : Bool) : ExactView (.double (.infinite negative))

lemma exactView {x : Number} (hx : (number x).IsExact) : ExactView x := by
  cases x with
  | int n => exact .int (isExact_int.1 hx)
  | double d =>
    cases d with
    | nan => cases hx
    | infinite negative => exact .infinite negative
    | finite negative exponent fraction =>
      obtain ⟨n, hn⟩ := Option.isSome_iff_exists.1 hx
      exact .integral hn

variable {x : Number} (hx : ExactView x)

include hx

lemma ExactView.isNaN_eq_false : x.isNaN = false := by
  cases hx with
  | int | infinite => rfl
  | @integral d n h =>
    cases d with
    | nan => cases h
    | _ => rfl

lemma ExactView.rank?_asWritten : x.asWritten.rank? = x.rank? := by
  cases hx with
  | int | infinite => rfl
  | integral h =>
    rw [asWritten, h]
    exact Double.rank?_of_toInt? h

/-- A number is read as it is written. -/
lemma ExactView.wordOrNumber_render {rest : List Char} (hrest : Json.IsBehindPart rest) :
    Json.wordOrNumber (x.render.toList ++ rest) = .ok (.number x.asWritten, rest) := by
  cases hx with
  | int h => exact Json.wordOrNumber_toString hrest h
  | @integral d n h =>
    have hlimit := withinDigitLimit_of_isInRange (isInRange_of_rank (Double.rank?_of_toInt? h))
    rw [render_of_toInt? h, asWritten, h]
    exact Json.wordOrNumber_toString hrest hlimit
  | infinite negative => cases negative <;> rfl

end Number

/-! ### Parts of a text -/

namespace Json

lemma value_of_wordOrNumber {cs rest : List Char} {v : Value} (fuel : Nat)
    (h : wordOrNumber cs = .ok (v, rest)) : value (fuel + 1) cs = .ok (v, rest) := by
  unfold value
  split
  · cases h
  · cases h
  · cases h
  · exact h

/-- No value starts with a blank, a closing bracket or the mark of a byte order. -/
lemma exists_head_of_value {fuel : Nat} {cs rest : List Char} {v : Value}
    (h : value fuel cs = .ok (v, rest)) :
    ∃ c more, cs = c :: more ∧ isBlank c = false ∧ c ≠ ']' ∧ c ≠ '\ufeff' := by
  cases fuel with
  | zero => cases h
  | succ fuel =>
    cases cs with
    | nil => cases h
    | cons c more =>
      refine ⟨c, more, rfl, ?_, ?_, ?_⟩
      · rw [← Bool.not_eq_true]
        intro hc
        simp only [isBlank, Bool.or_eq_true, beq_iff_eq] at hc
        rcases hc with ((rfl | rfl) | rfl) | rfl <;> cases h
      · rintro rfl
        cases h
      · rintro rfl
        cases h

end Json

namespace Value

def jsonChars (v : Value) : List Char := v.jsonText.chars

def commaJoined : List (List Char) → List Char
  | [] => []
  | [part] => part
  | part :: rest => part ++ ',' :: commaJoined rest

/-- The text of a value, and what stands behind it, are read as the value as written. Every step
into a part passes a character, so the length of the text is depth enough. -/
def ReadsBack (v : Value) : Prop :=
  ∀ fuel rest, v.jsonChars.length ≤ fuel → Json.IsBehindPart rest →
    Json.value fuel (v.jsonChars ++ rest) = .ok (v.asWritten, rest)

variable {v : Value} {items : List Value} {entries : Entries} {rest : List Char}

lemma ReadsBack.exists_head (h : v.ReadsBack) :
    ∃ c cs, v.jsonChars = c :: cs ∧ Json.isBlank c = false ∧ c ≠ ']' ∧ c ≠ '\ufeff' := by
  have hread := h v.jsonChars.length [] (Nat.le_refl _) nofun
  rw [List.append_nil] at hread
  exact Json.exists_head_of_value hread

lemma ReadsBack.skipBlanks (h : v.ReadsBack) (rest : List Char) :
    Json.skipBlanks (v.jsonChars ++ rest) = v.jsonChars ++ rest := by
  obtain ⟨c, cs, hcs, hc, -⟩ := h.exists_head
  rw [hcs]
  exact List.dropWhile_cons_of_neg (by simp [hc])

lemma chars_join_comma (ts : List Text) :
    (Text.join "," ts).chars = commaJoined (ts.map Text.chars) := by
  induction ts with
  | nil => rfl
  | cons t rest ih =>
    cases rest with
    | nil => rfl
    | cons u more =>
      rw [Text.join, Text.chars_append, Text.chars_append, ih, List.append_assoc]
      · rfl
      · exact List.cons_ne_nil u more

lemma jsonChars_array (kind : ArrayKind) (items : List Value) :
    (array kind items).jsonChars = '[' :: commaJoined (items.map jsonChars) ++ [']'] := by
  rw [jsonChars, jsonText, jsonTexts_eq, jsonArray, Text.chars_append, Text.chars_append,
    chars_join_comma, List.map_map]
  rfl

lemma exists_commaJoined (part : List Char) (parts : List (List Char)) :
    ∃ cs, commaJoined (part :: parts) = part ++ cs := by
  cases parts with
  | nil => exact ⟨[], (List.append_nil part).symm⟩
  | cons next parts => exact ⟨_, rfl⟩

lemma ReadsBack.skipBlanks_commaJoined (h : v.ReadsBack) (more : List Value) (rest : List Char) :
    Json.skipBlanks (commaJoined ((v :: more).map jsonChars) ++ rest) =
      commaJoined ((v :: more).map jsonChars) ++ rest := by
  obtain ⟨cs, hcs⟩ := exists_commaJoined v.jsonChars (more.map jsonChars)
  rw [List.map_cons, hcs, List.append_assoc]
  exact h.skipBlanks _

lemma isBehindPart_cons {c : Char} (h : c = ',' ∨ c = ']' ∨ c = '\x7d') (cs : List Char) :
    Json.IsBehindPart (c :: cs) := by
  rintro _ ⟨⟩
  exact h

/-- The texts of elements with commas between are read as the elements. -/
lemma elements_commaJoined (h : ∀ v ∈ items, ReadsBack v) (hne : items ≠ []) (fuel : Nat)
    (rest : List Char) (hfuel : (commaJoined (items.map jsonChars)).length < fuel) :
    Json.elements fuel (commaJoined (items.map jsonChars) ++ ']' :: rest) =
      .ok (items.map asWritten, rest) := by
  induction items generalizing fuel with
  | nil => exact absurd rfl hne
  | cons v more ih =>
    obtain ⟨hv, hmore⟩ := List.forall_mem_cons.1 h
    obtain ⟨fuel, rfl⟩ := Nat.exists_eq_succ_of_ne_zero (Nat.ne_zero_of_lt hfuel)
    rw [Json.elements]
    cases more with
    | nil =>
      have hread := hv fuel (']' :: rest) (Nat.le_of_lt_succ hfuel)
        (isBehindPart_cons (.inr (.inl rfl)) rest)
      exact except_bind_eq_ok.2 ⟨_, hread, rfl⟩
    | cons w more =>
      have htext : commaJoined ((v :: w :: more).map jsonChars) =
          v.jsonChars ++ ',' :: commaJoined ((w :: more).map jsonChars) := rfl
      rw [htext, List.length_append, List.length_cons] at hfuel
      have hread := hv fuel (',' :: (commaJoined ((w :: more).map jsonChars) ++ ']' :: rest))
        (by omega) (isBehindPart_cons (.inl rfl) _)
      rw [htext, List.append_assoc, List.cons_append]
      refine except_bind_eq_ok.2 ⟨_, hread, ?_⟩
      have hothers := ih hmore (by simp) fuel (by omega)
      rw [← (hmore w (by simp)).skipBlanks_commaJoined] at hothers
      exact except_bind_eq_ok.2 ⟨_, hothers, rfl⟩

/-- The text of an array is read back where the texts of its elements are. -/
lemma readsBack_array {kind : ArrayKind} (h : ∀ v ∈ items, ReadsBack v) :
    ReadsBack (array kind items) := by
  intro fuel rest hfuel hrest
  rw [jsonChars_array] at hfuel ⊢
  obtain ⟨fuel, rfl⟩ := Nat.exists_eq_succ_of_ne_zero (n := fuel) (by
    simp only [List.cons_append, List.length_cons] at hfuel
    omega)
  rw [asWritten, itemsAsWritten_eq]
  cases items with
  | nil => rfl
  | cons v more =>
    have hread := elements_commaJoined h (List.cons_ne_nil v more) fuel rest (by
      simp only [List.cons_append, List.length_cons, List.length_append] at hfuel
      omega)
    -- the text of the elements starts with that of the first
    obtain ⟨c, cs, hcs, hblank, hclose, -⟩ := (h v (by simp)).exists_head
    obtain ⟨cs', hcs'⟩ := exists_commaJoined v.jsonChars (more.map jsonChars)
    rw [List.map_cons, hcs', hcs, List.cons_append] at hread ⊢
    have hskip : Json.skipBlanks (c :: (cs ++ cs') ++ ']' :: rest) =
        c :: (cs ++ cs') ++ ']' :: rest := List.dropWhile_cons_of_neg (by simp [hblank])
    rw [Json.value.eq_def]
    simp only [List.cons_append, List.append_assoc, List.nil_append] at hread hskip ⊢
    rw [hskip]
    split
    · rename_i heq
      exact absurd (List.cons.inj heq).1 hclose
    · rw [hread]
      rfl

/-! ### Members -/

def memberText (e : Value × Value) : List Char := e.1.text.inQuotes.chars ++ ':' :: jsonChars e.2

lemma length_lt_memberText (e : Value × Value) : e.2.jsonChars.length < (memberText e).length := by
  simp only [memberText, List.length_append, List.length_cons]
  omega

lemma chars_field (name value : Text) :
    (name.inQuotes ++ ":" ++ value).chars = name.inQuotes.chars ++ ':' :: value.chars := by
  rw [Text.chars_append, Text.chars_append, List.append_assoc, Text.chars_ofString]
  rfl

/-- The texts of members start with the quote of the first key. -/
lemma exists_quote_members (e : Value × Value) (more : Entries) :
    ∃ cs, commaJoined (List.map memberText (e :: more)) = '"' :: cs := by
  obtain ⟨cs, hcs⟩ := exists_commaJoined (memberText e) (List.map memberText more)
  rw [List.map_cons, hcs, memberText, Text.chars_inQuotes]
  exact ⟨_, rfl⟩

lemma skipBlanks_members (e : Value × Value) (more : Entries) (rest : List Char) :
    Json.skipBlanks (commaJoined (List.map memberText (e :: more)) ++ rest) =
      commaJoined (List.map memberText (e :: more)) ++ rest := by
  obtain ⟨cs, hcs⟩ := exists_quote_members e more
  rw [hcs]
  rfl

lemma putField_of_not_mem {α : Type} {fields : List (Text × α)} {name : Text}
    (h : name ∉ fields.map (·.1)) (value : α) :
    putField fields name value = fields ++ [(name, value)] := by
  rw [putField, if_neg]
  simpa using h

/-- Fields of different names stay as they are. -/
lemma distinctFields_of_nodup {α : Type} {fields : List (Text × α)}
    (h : (fields.map (·.1)).Nodup) : distinctFields fields = fields := by
  have hgo : ∀ done : List (Text × α), ((done ++ fields).map (·.1)).Nodup →
      fields.foldl (fun done f => putField done f.1 f.2) done = done ++ fields := by
    induction fields with
    | nil => exact fun done _ => (List.append_nil done).symm
    | cons f rest ih =>
      intro done hd
      have hf : f.1 ∉ done.map (·.1) := by
        rw [List.map_append, List.map_cons, List.nodup_append] at hd
        exact fun hm => hd.2.2 _ hm _ List.mem_cons_self rfl
      rw [List.foldl_cons, putField_of_not_mem hf, ih (List.nodup_cons.1 h).2 _ (by simpa using hd)]
      simp
  exact hgo [] h

/-- The text of an object holds the texts of its members. -/
lemma jsonChars_object (hs : entries.HasStringKeys) (hd : entries.HasDistinctKeys) :
    jsonChars (object entries) =
      '\x7b' :: commaJoined (List.map memberText entries) ++ ['\x7d'] := by
  have hnodup : ((jsonFields entries).map (·.1)).Nodup := by
    rw [jsonFields_eq, List.map_map]
    refine List.pairwise_map.2 (hd.imp_of_mem fun {e f} he hf hne heq => ?_)
    obtain ⟨s, hk⟩ := isString_iff.1 (hs e he)
    obtain ⟨t, hl⟩ := isString_iff.1 (hs f hf)
    simp only [Function.comp_apply, hk, hl, text] at heq
    rw [hk, hl, heq, same_self] at hne
    cases hne
  have hmembers : ((jsonFields entries).map fun f => (f.1.inQuotes ++ ":" ++ f.2 : Text)).map
      Text.chars = List.map memberText entries := by
    rw [jsonFields_eq, List.map_map, List.map_map]
    refine List.map_congr_left fun e _ => ?_
    simp only [Function.comp_apply, chars_field, memberText, jsonChars]
  have htext : (object entries).jsonText = jsonObject (jsonFields entries) := by
    rw [jsonText, distinctFields_of_nodup hnodup]
  unfold jsonChars
  rw [htext, jsonObject, Text.chars_append, Text.chars_append, chars_join_comma,
    hmembers]
  rfl

/-- A member is read up to what stands behind it, and put behind the others. -/
lemma members_memberText {key : Text} (hkey : (string key).IsExact) (hv : ReadsBack v) (fuel : Nat)
    (hfuel : v.jsonChars.length ≤ fuel) (hrest : Json.IsBehindPart rest) (done : Entries) :
    Json.members (fuel + 1) (memberText (string key, v) ++ rest) done =
      match Json.skipBlanks rest with
      | '\x7d' :: rest => .ok (done.insert (string key) v.asWritten, rest)
      | ',' :: rest =>
        Json.members fuel (Json.skipBlanks rest) (done.insert (string key) v.asWritten)
      | rest => .error (.malformed "Expecting ',' delimiter" rest) := by
  obtain ⟨start, hstart⟩ : ∃ start, start = key.chars.flatMap Text.quoteChar ++ '"' ::
    ':' :: (v.jsonChars ++ rest) := ⟨_, rfl⟩
  have htext : memberText (string key, v) ++ rest = '"' :: start := by
    rw [hstart, memberText, text, Text.chars_inQuotes]
    simp only [List.cons_append, List.append_assoc, List.nil_append]
  have hname := Json.stringBody_quoted ('"' :: start) key.chars (':' :: (v.jsonChars ++ rest))
  rw [← hstart] at hname
  have hread := hv fuel rest hfuel hrest
  rw [← hv.skipBlanks rest] at hread
  have hcolon : Json.skipBlanks (':' :: (v.jsonChars ++ rest)) = ':' :: (v.jsonChars ++ rest) :=
    rfl
  rw [htext, Json.members]
  simp only [hname, hcolon, hread, Text.ofPoints_plain_of_isPlain hkey, bind, Except.bind]
  rfl

/-- A member under a new key comes last. -/
lemma insert_eq_append {done more : Entries} {key : Value}
    (hd : Entries.HasDistinctKeys (done ++ (key, v) :: more)) (w : Value) :
    done.insert key w = done ++ [(key, w)] := by
  refine Entries.insert_of_not_contains (List.any_eq_false.2 fun f hf => ?_) _
  rw [(List.pairwise_append.1 hd).2.2 f hf _ List.mem_cons_self]
  exact Bool.false_ne_true

/-- The texts of members with commas between are read as the members, behind others under other
keys. -/
lemma members_commaJoined (h : ∀ e ∈ entries, IsExact e.1 ∧ ReadsBack e.2)
    (hs : entries.HasStringKeys) (hne : entries ≠ []) (done : Entries)
    (hd : Entries.HasDistinctKeys (done ++ entries))
    (fuel : Nat) (rest : List Char)
    (hfuel : (commaJoined (List.map memberText entries)).length < fuel) :
    Json.members fuel (commaJoined (List.map memberText entries) ++ '\x7d' :: rest) done =
      .ok (done ++ entriesAsWritten entries, rest) := by
  induction entries generalizing done fuel with
  | nil => exact absurd rfl hne
  | cons e more ih =>
    obtain ⟨key, v⟩ := e
    obtain ⟨⟨hexact, hv⟩, hmore⟩ := List.forall_mem_cons.1 h
    obtain ⟨hkey, hkeys⟩ := List.forall_mem_cons.1 hs
    obtain ⟨s, hsame⟩ := isString_iff.1 hkey
    obtain rfl : key = string s := hsame
    obtain ⟨fuel, rfl⟩ := Nat.exists_eq_succ_of_ne_zero (Nat.ne_zero_of_lt hfuel)
    have hlength : v.jsonChars.length < _ := length_lt_memberText (string s, v)
    have hinsert := insert_eq_append hd v.asWritten
    cases more with
    | nil =>
      rw [List.map_cons, List.map_nil, commaJoined] at hfuel ⊢
      rw [@members_memberText v ('\x7d' :: rest) s hexact hv fuel (by omega)
        (isBehindPart_cons (.inr (.inr rfl)) rest) done]
      exact congrArg (fun es => Except.ok (es, rest)) hinsert
    | cons f more =>
      have htext : commaJoined (List.map memberText ((string s, v) :: f :: more)) =
          memberText (string s, v) ++ ',' :: commaJoined (List.map memberText (f :: more)) := rfl
      have hd' : Entries.HasDistinctKeys (done ++ [(string s, v.asWritten)] ++ f :: more) := by
        rw [Entries.hasDistinctKeys_iff] at hd ⊢
        simpa [Entries.keys] using hd
      rw [htext, List.length_append, List.length_cons] at hfuel
      rw [htext, List.append_assoc, List.cons_append,
        @members_memberText v (',' :: (commaJoined (List.map memberText (f :: more)) ++
          '\x7d' :: rest)) s hexact hv fuel (by omega) (isBehindPart_cons (.inl rfl) _) done]
      have hothers := ih hmore hkeys (List.cons_ne_nil f more)
        (done ++ [(string s, v.asWritten)]) hd' fuel (by omega)
      rw [← skipBlanks_members, ← hinsert] at hothers
      refine hothers.trans ?_
      rw [hinsert, entriesAsWritten, List.append_assoc]
      rfl

/-- The text of an object is read back where the texts of its values are. -/
lemma readsBack_object (hs : entries.HasStringKeys) (hd : entries.HasDistinctKeys)
    (h : ∀ e ∈ entries, IsExact e.1 ∧ ReadsBack e.2) : ReadsBack (object entries) := by
  intro fuel rest hfuel hrest
  rw [jsonChars_object hs hd] at hfuel ⊢
  obtain ⟨fuel, rfl⟩ := Nat.exists_eq_succ_of_ne_zero (n := fuel) (by
    simp only [List.cons_append, List.length_cons] at hfuel
    omega)
  rw [asWritten]
  cases entries with
  | nil => rfl
  | cons e more =>
    have hread := members_commaJoined h hs (List.cons_ne_nil e more) [] hd fuel rest (by
      simp only [List.cons_append, List.length_cons, List.length_append] at hfuel
      omega)
    obtain ⟨cs, hcs⟩ := exists_quote_members e more
    rw [hcs] at hread ⊢
    simp only [List.cons_append, List.append_assoc, List.nil_append] at hread ⊢
    exact congrArg (Except.map fun r => (object r.1, r.2)) hread

/-! ### Values -/

/-- The text of a word or a number is read back. -/
lemma readsBack_of_wordOrNumber (h : ∀ rest, Json.IsBehindPart rest →
    Json.wordOrNumber (v.jsonChars ++ rest) = .ok (v.asWritten, rest)) : ReadsBack v := by
  intro fuel rest hfuel hrest
  cases fuel with
  | zero =>
    have hread := h [] nofun
    rw [List.eq_nil_of_length_eq_zero (Nat.le_zero.1 hfuel)] at hread
    cases hread
  | succ fuel => exact Json.value_of_wordOrNumber fuel (h rest hrest)

lemma readsBack_string {s : Text} (hs : s.isPlain = true) : ReadsBack (string s) := by
  intro fuel rest hfuel hrest
  rw [jsonChars, jsonText, Text.chars_inQuotes] at hfuel ⊢
  cases fuel with
  | zero => cases hfuel
  | succ fuel =>
    have hbody := Json.stringBody_quoted
      ('"' :: (s.chars.flatMap Text.quoteChar ++ '"' :: rest)) s.chars rest
    simp only [List.cons_append, List.append_assoc, List.nil_append]
    rw [Json.value.eq_def]
    simp only [hbody, Except.map, Text.ofPoints_plain_of_isPlain hs]
    rfl

/-- What JSON text holds exactly is read back from it. -/
theorem IsExact.readsBack (h : v.IsExact) : v.ReadsBack := by
  induction v using Value.induction_on with
  | leaf v hv =>
    cases v with
    | null => exact readsBack_of_wordOrNumber fun rest _ => rfl
    | bool b => exact readsBack_of_wordOrNumber fun rest _ => by cases b <;> rfl
    | number x =>
      refine readsBack_of_wordOrNumber fun rest => ?_
      rw [jsonChars, jsonText, Text.chars_ofString]
      exact (Number.exactView h).wordOrNumber_render
    | string s => exact readsBack_string h
    | array | object | set => cases hv
    | undefined | date | datetime | bytes => cases h
  | array kind items ih => exact readsBack_array fun v hv => ih v hv (isExact_array.1 h v hv)
  | object entries ih =>
    obtain ⟨⟨hs, hd⟩, hvalues⟩ := isExact_object.1 h
    exact readsBack_object hs hd fun e he => ⟨(hvalues e he).1, ih e he (hvalues e he).2⟩
  | set => cases everyPart_self h

/-- The JSON text of a value that it holds exactly is a document with the value as written. -/
theorem IsExact.document_jsonChars (h : v.IsExact) :
    Json.document v.jsonChars = .ok v.asWritten := by
  have hread := h.readsBack (2 * v.jsonChars.length + 2) [] (by omega) nofun
  obtain ⟨c, cs, hcs, hblank, -, hmark⟩ := h.readsBack.exists_head
  have hskip := h.readsBack.skipBlanks []
  rw [List.append_nil] at hread hskip
  rw [Json.document.eq_def]
  split
  · rename_i heq
    rw [hcs] at heq
    exact absurd (List.cons.inj heq).1 hmark
  · rw [hskip]
    exact except_bind_eq_ok.2 ⟨_, hread, rfl⟩

/-! ### The value as written -/

lemma keys_entriesAsWritten (entries : Entries) :
    Entries.keys (entriesAsWritten entries) = entries.keys := by
  simp [Entries.keys, entriesAsWritten_eq]

lemma get?_entriesAsWritten (entries : Entries) (key : Value) :
    Entries.get? (entriesAsWritten entries) key = (entries.get? key).map asWritten := by
  induction entries with
  | nil => rfl
  | cons e rest ih =>
    obtain ⟨k, v⟩ := e
    rw [entriesAsWritten, Entries.get?_cons, Entries.get?_cons, ih]
    split <;> rfl

/-- The value as written has the content of the value. -/
theorem IsExact.alike_asWritten (h : v.IsExact) : Alike v.asWritten v := by
  induction v using Value.induction_on with
  | leaf v hv =>
    cases v with
    | null => exact ⟨rfl, rfl, by simp [asWritten, jsonEqual]⟩
    | bool b => exact ⟨rfl, rfl, by simp [asWritten, jsonEqual]⟩
    | number x =>
      have hx := Number.exactView h
      have hrank := hx.rank?_asWritten
      refine alike_number.2 ⟨hrank, ?_⟩
      rw [Number.isNaN_eq, hrank, ← Number.isNaN_eq]
      exact hx.isNaN_eq_false
    | string s => exact alike_string s
    | array | object | set => cases hv
    | undefined | date | datetime | bytes => cases h
  | array kind items ih =>
    rw [asWritten, itemsAsWritten_eq]
    refine alike_array.2 (List.forall₂_map_left_iff.2 (List.forall₂_same.2 fun v hv => ?_))
    exact ih v hv (isExact_array.1 h v hv)
  | object entries ih =>
    obtain ⟨⟨hs, hd⟩, hvalues⟩ := isExact_object.1 h
    have hs' : Entries.HasStringKeys (entriesAsWritten entries) := by
      rw [entriesAsWritten_eq]
      exact List.forall_mem_map.2 hs
    have hd' : Entries.HasDistinctKeys (entriesAsWritten entries) := by
      rw [Entries.hasDistinctKeys_iff, keys_entriesAsWritten, ← Entries.hasDistinctKeys_iff]
      exact hd
    refine alike_object.2 (Entries.alike_of_lookup hs' hd' hs hd fun key => ?_)
    rw [get?_entriesAsWritten]
    cases hg : entries.get? key with
    | none => exact .none
    | some v =>
      obtain ⟨k, hm, -⟩ := Entries.mem_of_get? hg
      exact .some (ih (k, v) hm (hvalues _ hm).2)
  | set => cases everyPart_self h

/-- The members of the value as written are in the order of the value. -/
theorem layout_asWritten (v : Value) : v.asWritten.layout = v.layout := by
  induction v using Value.induction_on with
  | leaf v hv =>
    cases v with
    | array | object | set => cases hv
    | _ => rfl
  | array kind items ih =>
    rw [asWritten, list, layout, layout, itemLayouts_eq, itemLayouts_eq, itemsAsWritten_eq,
      List.map_map]
    exact congrArg _ (List.map_congr_left ih)
  | object entries ih =>
    rw [asWritten, layout, layout, entryLayouts_eq, entryLayouts_eq, entriesAsWritten_eq,
      List.map_map]
    exact congrArg _ (List.map_congr_left fun e he => congrArg (Prod.mk e.1) (ih e he))
  | set => rfl

end Value

end JsonSchema
