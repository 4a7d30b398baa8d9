import JsonSchema.Proofs.ReadBack.Value
import JsonSchema.Proofs.Utf8
import JsonSchema.Validation.Reason

/-!
JSON text is read back from a file, and from the reasons that show it.

A file with the JSON text of a value is loaded as that value, since the text has no line end and
starts with no mark of a byte order. Where a reason shows a literal as JSON text, the text tells
the literal: of two texts that agree the reader takes the same value from the front, and leaves
the same rest.
-/

namespace JsonSchema

/-! ### The characters of JSON text -/

namespace Text

lemma least_hexDigit : ∀ n < 16, 32 ≤ (hexDigit n).toNat := by decide

lemma least_of_mem_hexDigits {width n : Nat} {c : Char} (h : c ∈ hexDigits width n) :
    32 ≤ c.toNat := by
  induction width generalizing n with
  | zero => cases h
  | succ width ih =>
    rcases List.mem_append.1 h with h | h
    · exact ih h
    · rw [List.mem_singleton.1 h]
      exact least_hexDigit _ (Nat.mod_lt n (by decide))

lemma least_of_mem_quoteChar {c d : Char} (h : d ∈ quoteChar c) : 32 ≤ d.toNat := by
  unfold quoteChar at h
  cases hc : jsonEscape? c with
  | none =>
    rw [hc] at h
    rw [List.mem_singleton.1 h]
    exact (jsonEscape?_eq_none hc).2.2
  | some escape =>
    rw [hc] at h
    rcases jsonEscape?_eq_some hc with ⟨e, rfl, he⟩ | ⟨rfl, -⟩
    · have hletter : 32 ≤ e.toNat := by
        unfold Json.simpleEscape? at he
        split at he <;> first | decide | cases he
      simp only [Option.getD_some, List.mem_cons, List.not_mem_nil, or_false] at h
      rcases h with rfl | rfl
      · decide
      · exact hletter
    · simp only [Option.getD_some, unicodeEscape, List.mem_cons] at h
      rcases h with rfl | rfl | h
      · decide
      · decide
      · exact least_of_mem_hexDigits h

lemma least_of_mem_inQuotes {t : Text} {c : Char} (h : c ∈ t.inQuotes.chars) :
    32 ≤ c.toNat := by
  simp only [chars_inQuotes, List.cons_append, List.mem_cons, List.mem_append, List.not_mem_nil,
    or_false] at h
  rcases h with rfl | h | rfl
  · decide
  · obtain ⟨d, -, h⟩ := List.mem_flatMap.1 h
    exact least_of_mem_quoteChar h
  · decide

end Text

namespace Value

lemma mem_commaJoined {parts : List (List Char)} {c : Char} (h : c ∈ commaJoined parts) :
    c = ',' ∨ ∃ part ∈ parts, c ∈ part := by
  induction parts with
  | nil => cases h
  | cons part parts ih =>
    cases parts with
    | nil => exact .inr ⟨part, by simp, h⟩
    | cons next parts =>
      rcases List.mem_append.1 h with h | h
      · exact .inr ⟨part, by simp, h⟩
      · rcases List.mem_cons.1 h with rfl | h
        · exact .inl rfl
        · exact (ih h).imp_right fun ⟨p, hp, hc⟩ => ⟨p, List.mem_cons_of_mem _ hp, hc⟩

lemma least_of_mem_toString {n : Int} {c : Char} (h : c ∈ (toString n).toList) : 32 ≤ c.toNat := by
  have hdigits {m : Nat} (hm : c ∈ Nat.toDigits 10 m) : 32 ≤ c.toNat := by
    have hleast : 48 ≤ c.toNat := (Char.isDigit_iff_toNat.1
      (Nat.isDigit_of_mem_toDigits (by decide) (by decide) hm)).1
    omega
  cases n with
  | ofNat m =>
    rw [Json.toList_toString_ofNat] at h
    exact hdigits h
  | negSucc m =>
    rw [Json.toList_toString_negSucc] at h
    rcases List.mem_cons.1 h with rfl | h
    · decide
    · exact hdigits h

lemma least_of_all {cs : List Char} (h : (cs.all fun c => 32 ≤ c.toNat) = true) :
    ∀ c ∈ cs, 32 ≤ c.toNat := fun c hc => of_decide_eq_true (List.all_eq_true.1 h c hc)

/-- Parts between brackets have no control characters where no part has. -/
lemma least_of_mem_bracketed {before after : Char} {parts : List (List Char)}
    (hbefore : 32 ≤ before.toNat) (hafter : 32 ≤ after.toNat)
    (h : ∀ part ∈ parts, ∀ c ∈ part, 32 ≤ c.toNat) :
    ∀ c ∈ before :: commaJoined parts ++ [after], 32 ≤ c.toNat := by
  intro c hc
  simp only [List.cons_append, List.mem_cons, List.mem_append, List.not_mem_nil, or_false] at hc
  rcases hc with rfl | hc | rfl
  · exact hbefore
  · rcases mem_commaJoined hc with rfl | ⟨part, hpart, hc⟩
    · decide
    · exact h part hpart c hc
  · exact hafter

/-- The JSON text of a value has no control characters, line ends among them. -/
lemma IsExact.least_of_mem_jsonChars {v : Value} (h : v.IsExact) :
    ∀ c ∈ v.jsonChars, 32 ≤ c.toNat := by
  induction v using Value.induction_on with
  | leaf v hv =>
    cases v with
    | null => exact least_of_all rfl
    | bool b => cases b <;> exact least_of_all rfl
    | number x =>
      cases Number.exactView h with
      | int =>
        rw [jsonChars, jsonText, Text.chars_ofString]
        exact fun c => least_of_mem_toString
      | @integral d n hn =>
        rw [jsonChars, jsonText, Number.render_of_toInt? hn, Text.chars_ofString]
        exact fun c => least_of_mem_toString
      | infinite negative => cases negative <;> exact least_of_all rfl
    | string s => exact fun c => Text.least_of_mem_inQuotes
    | array | object | set => cases hv
    | undefined | date | datetime | bytes => cases h
  | array kind items ih =>
    rw [jsonChars_array]
    refine least_of_mem_bracketed (by decide) (by decide) (List.forall_mem_map.2 fun v hv => ?_)
    exact ih v hv (isExact_array.1 h v hv)
  | object entries ih =>
    obtain ⟨⟨hs, hd⟩, hvalues⟩ := isExact_object.1 h
    rw [jsonChars_object hs hd]
    refine least_of_mem_bracketed (by decide) (by decide)
      (List.forall_mem_map.2 fun e he c hc => ?_)
    rcases List.mem_append.1 hc with hc | hc
    · exact Text.least_of_mem_inQuotes hc
    · rcases List.mem_cons.1 hc with rfl | hc
      · decide
      · exact ih e he (hvalues e he).2 c hc
  | set => cases everyPart_self h

end Value

namespace Value

/-- What JSON text holds exactly is written. -/
lemma IsExact.isJsonWritable {v : Value} (h : v.IsExact) : v.isJsonWritable = true := by
  induction v using Value.induction_on with
  | leaf v hv =>
    cases v with
    | number x =>
      cases x with
      | int n =>
        rw [Value.isJsonWritable]
        exact isExact_int.1 h
      | double d => simp only [Value.isJsonWritable]
    | array | object | set => cases hv
    | _ => simp only [Value.isJsonWritable]
  | array kind items ih =>
    rw [Value.isJsonWritable, areJsonWritable_eq, List.all_eq_true]
    exact fun v hv => ih v hv (isExact_array.1 h v hv)
  | object entries ih =>
    obtain ⟨⟨hs, -⟩, hvalues⟩ := isExact_object.1 h
    rw [Value.isJsonWritable, fieldsAreJsonWritable_eq, List.all_eq_true]
    intro e he
    obtain ⟨s, hk⟩ := isString_iff.1 (hs e he)
    rw [hk, ih e he (hvalues e he).2, Bool.and_true]
    simp only [isWritable]
  | set => cases everyPart_self h

end Value

namespace Value

lemma IsExact.hasPlainStrings {v : Value} (h : v.IsExact) : v.HasPlainStrings := by
  induction v using Value.induction_on with
  | leaf v hv =>
    cases v with
    | string s => exact h
    | array | object | set => cases hv
    | _ => rfl
  | array kind items ih =>
    exact hasPlainStrings_array.2 fun v hv => ih v hv (isExact_array.1 h v hv)
  | object entries ih =>
    obtain ⟨⟨hs, -⟩, hvalues⟩ := isExact_object.1 h
    refine hasPlainStrings_object.2 fun e he => ⟨?_, ih e he (hvalues e he).2⟩
    have hkey := (hvalues e he).1
    obtain ⟨s, hk⟩ := isString_iff.1 (hs e he)
    rw [hk] at hkey ⊢
    exact hkey
  | set => cases everyPart_self h

lemma IsExact.isPlain_jsonText {v : Value} (h : v.IsExact) : v.jsonText.isPlain = true :=
  Value.isPlain_jsonText h.hasPlainStrings

end Value

/-! ### Files -/

namespace Document

/-- A file with the bytes of a text without carriage returns is read as the text. -/
lemma readText_of_encode {files : Files} {path : FilePath} {cs : List Char}
    (hpath : '\x00' ∉ path.text.toList) (hfile : files path = .ok (Text.Utf8.encode cs))
    (hbreaks : '\r' ∉ cs) : readText files path = .ok cs := by
  rw [readText_of_decode hpath hfile (Text.Utf8.decode?_encode cs), unifyBreaks_of_not_mem hbreaks]

/-- A file with the JSON text of a value is loaded as the value as written. -/
theorem load_jsonChars {x : Value} (hx : x.IsExact) {files : Files} {path : FilePath}
    (hpath : '\x00' ∉ path.text.toList) (hjson : isJsonPath path = true)
    (hfile : files path = .ok (Text.Utf8.encode x.jsonChars)) :
    load files path = .ok x.asWritten := by
  have hbreaks : '\r' ∉ x.jsonChars := fun h =>
    absurd (hx.least_of_mem_jsonChars _ h) (by decide)
  rw [load_of_text (readText_of_encode hpath hfile hbreaks), if_pos hjson]
  exact except_mapError_eq_ok.2 hx.document_jsonChars

end Document

/-! ### Literals in reasons -/

namespace Value

variable {x y : Value}

/-- From the front of a text one value is read, and one rest is left. -/
lemma ReadsBack.eq_of_append (hx : x.ReadsBack) (hy : y.ReadsBack) {rest rest' : List Char}
    (hrest : Json.IsBehindPart rest) (hrest' : Json.IsBehindPart rest')
    (h : x.jsonChars ++ rest = y.jsonChars ++ rest') :
    x.asWritten = y.asWritten ∧ rest = rest' := by
  have hleft := hx (x.jsonChars.length + y.jsonChars.length) rest (by omega) hrest
  have hright := hy (x.jsonChars.length + y.jsonChars.length) rest' (by omega) hrest'
  rw [h, hright] at hleft
  obtain ⟨hvalue, hbehind⟩ := Prod.mk.inj (Except.ok.inj hleft)
  exact ⟨hvalue.symm, hbehind.symm⟩

/-- Values that are written alike have the same content, in the same order. -/
lemma IsExact.jsonEqual_of_asWritten (hx : x.IsExact) (hy : y.IsExact)
    (h : x.asWritten = y.asWritten) : jsonEqual x y = true ∧ x.layout = y.layout :=
  ⟨(hx.alike_asWritten.symm.trans (h ▸ hy.alike_asWritten)).equal,
    (layout_asWritten x).symm.trans ((congrArg layout h).trans (layout_asWritten y))⟩

/-- The JSON texts of literals as a reason lists them, up to the closing bracket. -/
def listedText (literals : List Value) : List Char :=
  (Text.join ", " (literals.map jsonText)).chars ++ [']']

/-- What stands behind the first literal of a list. -/
lemma exists_listedText (x : Value) (xs : List Value) :
    ∃ rest, listedText (x :: xs) = x.jsonChars ++ rest ∧ Json.IsBehindPart rest ∧
      (xs = [] ∧ rest = [']'] ∨ xs ≠ [] ∧ rest = ',' :: ' ' :: listedText xs) := by
  cases xs with
  | nil => exact ⟨[']'], rfl, isBehindPart_cons (.inr (.inl rfl)) _, .inl ⟨rfl, rfl⟩⟩
  | cons next xs =>
    refine ⟨_, ?_, isBehindPart_cons (.inl rfl) _, .inr ⟨List.cons_ne_nil next xs, rfl⟩⟩
    simp [listedText, Text.join, jsonChars]

/-- The listed texts of literals tell the literals. -/
lemma asWritten_of_listedText {xs ys : List Value} (hxs : ∀ x ∈ xs, ReadsBack x)
    (hys : ∀ y ∈ ys, ReadsBack y) (h : listedText xs = listedText ys) :
    List.Forall₂ (fun x y => x.asWritten = y.asWritten) xs ys := by
  have hfirst {x : Value} {xs : List Value} (hx : ReadsBack x) :
      listedText (x :: xs) ≠ listedText [] := by
    obtain ⟨rest, htext, -⟩ := exists_listedText x xs
    obtain ⟨c, cs, hcs, -, hclose, -⟩ := hx.exists_head
    rw [htext, hcs]
    exact fun h => hclose (List.cons.inj h).1
  induction xs generalizing ys with
  | nil =>
    cases ys with
    | nil => exact .nil
    | cons y ys => exact absurd h.symm (hfirst (hys y (by simp)))
  | cons x xs ih =>
    cases ys with
    | nil => exact absurd h (hfirst (hxs x (by simp)))
    | cons y ys =>
      obtain ⟨hx, hxs⟩ := List.forall_mem_cons.1 hxs
      obtain ⟨hy, hys⟩ := List.forall_mem_cons.1 hys
      obtain ⟨rest, htext, hrest, hmore⟩ := exists_listedText x xs
      obtain ⟨rest', htext', hrest', hmore'⟩ := exists_listedText y ys
      rw [htext, htext'] at h
      obtain ⟨hxy, rfl⟩ := hx.eq_of_append hy hrest hrest' h
      refine .cons hxy ?_
      rcases hmore with ⟨rfl, rfl⟩ | ⟨-, rfl⟩
      · rcases hmore' with ⟨rfl, -⟩ | ⟨-, heq⟩
        · exact .nil
        · cases heq
      · rcases hmore' with ⟨-, heq⟩ | ⟨-, heq⟩
        · cases heq
        · exact ih hxs hys (List.cons.inj (List.cons.inj heq).2).2

end Value

namespace Reason

variable {xs ys : List Value}

lemma chars_const_json (x : Value) : (const .json x).message.chars =
    "Value should have been exactly ".toList ++ x.jsonChars := by
  show (Text.ofString "Value should have been exactly " ++ LiteralForm.json.show x).chars = _
  rw [Text.chars_append, Text.chars_ofString]
  rfl

lemma chars_enum_json (xs : List Value) : (enum .json xs).message.chars =
    "Value should have been one of [".toList ++ Value.listedText xs := by
  show (Text.ofString "Value should have been one of [" ++
    Text.join ", " (xs.map LiteralForm.json.show) ++ Text.ofString "]").chars = _
  rw [Text.chars_append, Text.chars_append, Text.chars_ofString, Text.chars_ofString,
    List.append_assoc]
  rfl

/-- Literals that one reason shows as JSON text have the same content, in the same order. -/
lemma jsonEqual_of_const {x y : Value} (hx : x.IsExact) (hy : y.IsExact)
    (h : (const .json x).message = (const .json y).message) :
    Value.jsonEqual x y = true ∧ x.layout = y.layout := by
  have htext := congrArg Text.chars h
  rw [chars_const_json, chars_const_json] at htext
  have hend : Json.IsBehindPart [] := by
    intro c hc
    cases hc
  have hwritten := hx.readsBack.eq_of_append hy.readsBack hend hend
    (congrArg (· ++ []) (List.append_cancel_left htext))
  exact hx.jsonEqual_of_asWritten hy hwritten.1

/-- So have the literals of two lists, one by one. -/
lemma jsonEqual_of_enum (hxs : ∀ x ∈ xs, x.IsExact) (hys : ∀ y ∈ ys, y.IsExact)
    (h : (enum .json xs).message = (enum .json ys).message) :
    List.Forall₂ (fun x y => Value.jsonEqual x y = true ∧ x.layout = y.layout) xs ys := by
  have htext := congrArg Text.chars h
  rw [chars_enum_json, chars_enum_json] at htext
  have hwritten := Value.asWritten_of_listedText (fun x hx => (hxs x hx).readsBack)
    (fun y hy => (hys y hy).readsBack) (List.append_cancel_left htext)
  refine (forall₂_mem hwritten).imp fun x y ⟨hx, hy, h⟩ => ?_
  exact (hxs x hx).jsonEqual_of_asWritten (hys y hy) h

end Reason

namespace Document

/-- JSON text is read back. What it holds exactly is written as a string, and is loaded again from a
file with the string, with the same content and the same order of members. So the literals that a
`const` or an `enum` reason shows as JSON text, as arrays and objects do, are told by the text of
the reason. -/
theorem load_jsonText :
    (∀ x : Value, x.IsExact → x.isJsonWritable = true ∧ x.jsonText.isPlain = true ∧
      ∀ (files : Files) (path : FilePath), '\x00' ∉ path.text.toList → isJsonPath path = true →
        files path = .ok (Text.Utf8.encode x.jsonText.toList) →
        ∃ v, load files path = .ok v ∧ Value.jsonEqual v x = true ∧ v.layout = x.layout) ∧
    (∀ x y : Value, x.IsExact → y.IsExact →
      (Reason.const .json x).message = (Reason.const .json y).message →
      Value.jsonEqual x y = true ∧ x.layout = y.layout) ∧
    ∀ xs ys : List Value, (∀ x ∈ xs, x.IsExact) → (∀ y ∈ ys, y.IsExact) →
      (Reason.enum .json xs).message = (Reason.enum .json ys).message →
      List.Forall₂ (fun x y => Value.jsonEqual x y = true ∧ x.layout = y.layout) xs ys := by
  refine ⟨fun x hx =>
      ⟨hx.isJsonWritable, hx.isPlain_jsonText, fun files path hpath hjson hfile => ?_⟩,
    fun x y => Reason.jsonEqual_of_const, fun xs ys => Reason.jsonEqual_of_enum⟩
  rw [Text.toList_of_isPlain hx.isPlain_jsonText] at hfile
  exact ⟨x.asWritten, load_jsonChars hx hpath hjson hfile, hx.alike_asWritten.equal,
    Value.layout_asWritten x⟩

/-- A tuple and an object that hold a control character, a negative zero and an infinity, and the
list that is shown as the tuple is. -/
theorem load_jsonText_nested :
    (∃ v, load (fun _ => .ok (Text.Utf8.encode (Value.jsonText (.object
        [(.string "a\"\x07", .array .tuple [.double (.finite true 0 0), .null]),
          (.string "é", .double (.infinite true))])).toList)) ⟨"", ["d.json"]⟩ = .ok v ∧
      Value.jsonEqual v (.object
        [(.string "a\"\x07", .array .tuple [.double (.finite true 0 0), .null]),
          (.string "é", .double (.infinite true))]) = true ∧
      v.layout = .object [(.string "a\"\x07", .list [.null, .null]), (.string "é", .null)]) ∧
    Value.jsonEqual (.array .tuple [.double (.finite true 0 0)]) (.list [.int 0]) = true ∧
    List.Forall₂ (fun x y => Value.jsonEqual x y = true ∧ x.layout = y.layout)
      [.double (.finite true 0 0), .list []] [.int 0, .array .tuple []] :=
  ⟨(load_jsonText.1 _ (by decide +kernel)).2.2 _ _ (by decide +kernel) (by decide +kernel) rfl,
    (load_jsonText.2.1 _ _ (by decide +kernel) (by decide +kernel) (by decide +kernel)).1,
    load_jsonText.2.2 _ _ (by decide +kernel) (by decide +kernel) (by decide +kernel)⟩

end Document

end JsonSchema
