import JsonSchema.Proofs.Files
import JsonSchema.Proofs.Loading.Building
import JsonSchema.Proofs.Loading.Json
import JsonSchema.Proofs.Readers.Agreement
import JsonSchema.Registry

/-!
How loading a document fails.

A text is sound if what it says is there: the characters that it escapes, the numbers and dates that
its scalars are tagged as, and integers of a length that is read. Main statement: a sound text and
a file of such a text stand for something, or are refused by a fault of loading that carries where
they come from; and a sound text for a registered schema is validated, or told as one violation.
-/

namespace JsonSchema

open Yaml

/-- An answer, or a fault of loading that carries the source. -/
def AnswersOrRefuses {α : Type} (source : String) (x : Except Fault α) : Prop :=
  (∃ a, x = .ok a) ∨ ∃ message, x = .error (.loading message (some source))

lemma not_answersOrRefuses {α : Type} {x : Except Fault α} {f : Fault} (h : x = .error f)
    (hf : ∀ message source, f ≠ .loading message source) (source : String) :
    ¬AnswersOrRefuses source x := by
  rintro (⟨a, ha⟩ | ⟨message, hm⟩)
  · cases h.symm.trans ha
  · exact hf _ _ (Except.error.inj (h.symm.trans hm))

/-! ### Texts -/

/-- Escapes and versions in a text are in range, and so are the scalars among its nodes. -/
def Yaml.isSound (cs : List Char) : Bool :=
  isOrdinary cs && match Graph.ofChars? cs with
    | .ok (some g) => g.nodes.all (·.2.isSound)
    | _ => true

namespace Document

theorem read_of_isSound {cs : List Char} (h : Yaml.isSound cs = true) (source : String) :
    AnswersOrRefuses source (read cs source) := by
  rw [Yaml.isSound, Bool.and_eq_true] at h
  obtain ⟨hordinary, hnodes⟩ := h
  have hgraph := ends_graph hordinary
  unfold read Yaml.load
  cases hofChars : Graph.ofChars? cs with
  | error d =>
    rw [hofChars] at hgraph
    obtain rfl : d = .malformed := hgraph
    exact .inr ⟨_, rfl⟩
  | ok root =>
    cases root with
    | none => exact .inl ⟨_, rfl⟩
    | some g =>
      rw [hofChars] at hnodes
      have hreading := g.ends_reading (Nodes.areSound_of_all hnodes)
      cases hg : g.reading with
      | ok r => exact .inl ⟨r, by simp only [bind, Except.bind, Except.mapError, hg]⟩
      | error d =>
        rw [hg] at hreading
        obtain rfl : d = .malformed := hreading
        exact .inr ⟨_, by simp only [bind, Except.bind, Except.mapError, hg]; rfl⟩

lemma parseJson_of_hasShortIntegers {cs : List Char} (h : Json.hasShortIntegers .between cs = true)
    (path : FilePath) : AnswersOrRefuses path.text (parseJson cs path) := by
  have hends := Json.ends_document h
  unfold parseJson
  cases hdocument : Json.document cs with
  | ok v => exact .inl ⟨v, rfl⟩
  | error e =>
    rw [hdocument] at hends
    cases e with
    | malformed message rest => exact .inr ⟨_, rfl⟩
    | tooManyDigits => exact absurd rfl hends

/-! ### Files -/

/-- A path without a null character, of no file or of one whose bytes are a sound text. -/
def isSoundFile (files : Files) (path : FilePath) : Bool :=
  !path.text.toList.contains '\x00' && match files path with
    | .error _ => true
    | .ok bytes => (Text.Utf8.decode? bytes).any fun cs =>
      if isJsonPath path then Json.hasShortIntegers .between (unifyBreaks cs)
      else Yaml.isSound (unifyBreaks cs)

theorem readFile_of_isSoundFile {files : Files} {path : FilePath}
    (h : isSoundFile files path = true) : AnswersOrRefuses path.text (readFile files path) := by
  rw [isSoundFile, Bool.and_eq_true] at h
  obtain ⟨hname, hbytes⟩ := h
  have hname : '\x00' ∉ path.text.toList := by simpa using hname
  cases hfile : files path with
  | error defect =>
    have htext : readText files path =
        .error (.loading s!"Cannot read {path.text}: {defect.message}" (some path.text)) := by
      rw [readText, if_neg (by simpa using hname), hfile]
    exact .inr ⟨_, readFile_of_fault htext⟩
  | ok bytes =>
    rw [hfile] at hbytes
    obtain ⟨cs, hcs, hsound⟩ := (Option.any_eq_true _ _).1 hbytes
    rw [readFile_of_text (readText_of_decode hname hfile hcs)]
    split at hsound
    · rename_i hjson
      rw [if_pos hjson]
      rcases parseJson_of_hasShortIntegers hsound path with ⟨v, hv⟩ | ⟨message, hm⟩
      · exact .inl ⟨.value v, by rw [hv]; rfl⟩
      · exact .inr ⟨message, by rw [hm]; rfl⟩
    · rename_i hyaml
      rw [if_neg hyaml]
      exact read_of_isSound hsound path.text

end Document

/-! ### Registered schemas -/

/-- A text that is refused is told as one violation at the root. -/
lemma Registry.validateDocument_of_loading {r : Registry} {name : String} {schema : Value}
    (hschema : r.find? name = some schema) {content message : String}
    (h : Document.parse content.toList Document.noSource =
      .error (.loading message (some Document.noSource))) :
    r.validateDocument name content =
      pure (.invalid [⟨.undefined, schema, .stated message, .here, .here⟩]) := by
  have hget : r.get name = .ok schema := by rw [get, hschema]
  unfold validateDocument
  rw [hget, h]
  rfl

namespace Document

/-- **Loading fails as a fault of loading.** A path of a sound file and a sound text stand for
something, or are refused by a fault of loading that carries the path or the source. A sound text
for a registered schema has a value, which is validated, or holds itself, or is refused, which is
told as one violation at the root. -/
theorem refused_as_loading (files : Files) (path : FilePath) (text source : String)
    {r : Registry} {name : String} {schema : Value} (hschema : r.find? name = some schema) :
    (isSoundFile files path = true → AnswersOrRefuses path.text (readFile files path)) ∧
    (Yaml.isSound text.toList = true → AnswersOrRefuses source (read text.toList source) ∧
      ((∃ v, read text.toList noSource = .ok (.value v) ∧
        r.validateDocument name text = r.validate name v) ∨
      (∃ nodes root, read text.toList noSource = .ok (.cyclic nodes root)) ∨
      ∃ message, read text.toList noSource = .error (.loading message (some noSource)) ∧
        r.validateDocument name text =
          pure (.invalid [⟨.undefined, schema, .stated message, .here, .here⟩]))) := by
  refine ⟨readFile_of_isSoundFile, fun h => ⟨read_of_isSound h source, ?_⟩⟩
  rcases read_of_isSound h noSource with ⟨reading, hr⟩ | ⟨message, hm⟩
  · cases reading with
    | value v =>
      have hparse : parse text.toList noSource = .ok v := by
        rw [parse, hr]
        rfl
      exact .inl ⟨v, hr, r.validateDocument_eq hparse name⟩
    | cyclic nodes root => exact .inr (.inl ⟨nodes, root, hr⟩)
  · have hparse : parse text.toList noSource = .error (.loading message (some noSource)) := by
      rw [parse, hm]
      rfl
    exact .inr (.inr ⟨message, hm, Registry.validateDocument_of_loading hschema hparse⟩)

/-- A sequence that is not closed is told as one violation, and a sequence that is closed holds a
date, a time in base sixty and itself. -/
theorem refused_as_loading_unclosed :
    (∃ message, Registry.validateDocument ⟨[("any", .bool true)]⟩ "any" "[2020-01-31, 0x1F" =
      pure (.invalid [⟨.undefined, .bool true, .stated message, .here, .here⟩])) ∧
    AnswersOrRefuses noSource (read "&a [2020-01-31, 12:30:45, *a]".toList noSource) ∧
    AnswersOrRefuses "d.yaml" (readFile (fun _ => .error .missing) ⟨"", ["d.yaml"]⟩) := by
  have hany : Registry.find? ⟨[("any", .bool true)]⟩ "any" = some (.bool true) := rfl
  have hclosed : Yaml.isSound "&a [2020-01-31, 12:30:45, *a]".toList = true := by decide +kernel
  have hunclosed : Yaml.isSound "[2020-01-31, 0x1F".toList = true := by decide +kernel
  obtain ⟨hfile, htext⟩ := refused_as_loading (fun _ => .error .missing) ⟨"", ["d.yaml"]⟩
    "&a [2020-01-31, 12:30:45, *a]" noSource hany
  obtain ⟨-, hrefused⟩ := refused_as_loading (fun _ => .error .missing) ⟨"", ["d.yaml"]⟩
    "[2020-01-31, 0x1F" noSource hany
  refine ⟨?_, (htext hclosed).1, hfile (by decide +kernel)⟩
  have hread : (read "[2020-01-31, 0x1F".toList noSource).isOk = false := by decide +kernel
  rcases (hrefused hunclosed).2 with ⟨v, hv, -⟩ | ⟨nodes, root, hr⟩ | ⟨message, -, hanswer⟩
  · rw [hv] at hread
    cases hread
  · rw [hr] at hread
    cases hread
  · exact ⟨message, hanswer⟩

/-- A date that is not in the calendar is no value and is not refused as a fault of loading, and
validating it is no answer; nor are bytes refused that are no text. -/
theorem fails_at_impossible_date :
    ¬AnswersOrRefuses noSource (parse "2020-13-45".toList noSource) ∧
    (Registry.validateDocument ⟨[("any", .bool true)]⟩ "any" "2020-13-45").result =
      .error (.impossible "scalar") ∧
    ¬AnswersOrRefuses "d.json" (load (fun _ => .ok [0xff]) ⟨"", ["d.json"]⟩) := by
  have hparse : parse "2020-13-45".toList noSource = .error (.impossible "scalar") := rfl
  have hload : load (fun _ => .ok [0xff]) ⟨"", ["d.json"]⟩ = .error .notUnicode := rfl
  refine ⟨not_answersOrRefuses hparse nofun _, ?_, not_answersOrRefuses hload nofun _⟩
  unfold Registry.validateDocument
  rw [hparse]
  rfl

end Document

end JsonSchema
