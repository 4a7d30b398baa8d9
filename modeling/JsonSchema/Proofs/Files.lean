import JsonSchema.Document.Load
import JsonSchema.Proofs.Answer
import Mathlib.Data.String.Basic

/-!
Files by plain names, and what is read from them.
-/

namespace JsonSchema

namespace FilePath

/-- Splitting goes on to the end where no slash follows. -/
lemma splitOnAux_of_not_mem (before : List Char) {behind : List Char} (h : '/' ∉ behind) :
    String.splitOnAux (String.ofList (before ++ behind)) "/" 0 ⟨String.utf8Len before⟩ 0 [] =
      [String.ofList (before ++ behind)] := by
  induction behind generalizing before with
  | nil =>
    unfold String.splitOnAux
    rw [if_pos ((String.atEnd_of_valid before []).2 rfl)]
    simpa using String.extract_of_valid [] before []
  | cons c rest ih =>
    have hslash : (String.Pos.Raw.get (String.ofList (before ++ c :: rest))
        ⟨String.utf8Len before⟩ == String.Pos.Raw.get "/" 0) = false := by
      rw [String.get_of_valid]
      exact beq_false_of_ne fun hc : c = '/' => h (by simp [hc])
    have hnext : String.Pos.Raw.next (String.ofList (before ++ c :: rest))
        ((⟨String.utf8Len before⟩ : String.Pos.Raw).unoffsetBy 0) =
          ⟨String.utf8Len (before ++ [c])⟩ := by
      simpa using String.next_of_valid before c rest
    unfold String.splitOnAux
    rw [if_neg ((String.atEnd_of_valid before (c :: rest)).not.2 nofun), hslash,
      if_neg Bool.false_ne_true, hnext]
    simpa using ih (before ++ [c]) fun hm => h (by simp [hm])

/-- The path of a name alone. -/
lemma ofText_of_name {name : String} (h : '/' ∉ name.toList) (hname : name ≠ "" ∧ name ≠ ".") :
    ofText name = ⟨"", [name]⟩ := by
  have hparts : name.splitOn "/" = [name] := by
    rw [String.splitOn, if_neg (by decide)]
    simpa using splitOnAux_of_not_mem [] h
  have hroot : (name.toList.takeWhile (· == '/')).length = 0 := by
    cases hcs : name.toList with
    | nil => rfl
    | cons c rest =>
      have hc : (c == '/') = false := beq_false_of_ne fun hc => h (by simp [hcs, hc])
      rw [List.takeWhile_cons, hc]
      rfl
  simp only [ofText, hparts, hroot]
  simp [hname]

end FilePath

/-! ### Texts in ASCII -/

def asciiBytes (text : String) : List UInt8 := text.toList.map fun c => .ofNat c.toNat

lemma decode_ascii {cs : List Char} (h : ∀ c ∈ cs, c.toNat < 128) :
    Text.Utf8.decode? (cs.map fun c => .ofNat c.toNat) = some cs := by
  induction cs with
  | nil => rfl
  | cons c rest ih =>
    have hc := h c (by simp)
    have hcode : (UInt8.ofNat c.toNat).toNat = c.toNat := by
      rw [UInt8.toNat_ofNat']
      omega
    rw [List.map_cons, Text.Utf8.decode?.eq_def]
    simp only [hcode, if_pos hc, Char.ofNat_toNat, ih fun d hd => h d (by simp [hd])]
    rfl

lemma unifyBreaks_of_not_mem {cs : List Char} (h : '\r' ∉ cs) : Document.unifyBreaks cs = cs := by
  induction cs with
  | nil => rfl
  | cons c rest ih =>
    have hc : c ≠ '\r' := fun hc => h (by simp [hc])
    rw [Document.unifyBreaks, ih fun hr => h (by simp [hr])]
    · rintro rest rfl
      exact absurd rfl hc
    · exact hc

def isAscii (text : String) : Bool := text.toList.all fun c => c.toNat < 128

section

variable {files : Files} {path : FilePath}

/-- A file whose bytes are a text is read as the text. -/
lemma readText_of_decode {bytes : List UInt8} {cs : List Char} (hpath : '\x00' ∉ path.text.toList)
    (hfile : files path = .ok bytes) (h : Text.Utf8.decode? bytes = some cs) :
    Document.readText files path = .ok (Document.unifyBreaks cs) := by
  rw [Document.readText, if_neg (by simpa using hpath), hfile]
  simp only [h]

/-- Texts of one kind of line ends in ASCII are read as they are. -/
lemma readText_of_ascii {text : String} (hpath : '\x00' ∉ path.text.toList)
    (hfile : files path = .ok (asciiBytes text)) (hascii : isAscii text = true)
    (hbreaks : '\r' ∉ text.toList) : Document.readText files path = .ok text.toList := by
  have hchars : ∀ c ∈ text.toList, c.toNat < 128 := by
    simpa only [isAscii, List.all_eq_true, decide_eq_true_iff] using hascii
  rw [readText_of_decode hpath hfile (decode_ascii hchars), unifyBreaks_of_not_mem hbreaks]

end

/-- A text has the value of its nodes. -/
lemma Yaml.load_of_graph {cs : List Char} {g : Graph} {v : Value}
    (hgraph : (Graph.ofChars? cs).toOption = some (some g)) (h : g.reading = .ok (.value v)) :
    load cs = .ok (.value v) := by
  cases hofChars : Graph.ofChars? cs with
  | error d =>
    rw [hofChars] at hgraph
    cases hgraph
  | ok root =>
    rw [hofChars] at hgraph
    cases hgraph
    rw [load, hofChars]
    simp only [Except.mapError, bind, Except.bind, h]

namespace Document

/-- A text has a value where it is read as one. -/
lemma parse_eq_ok {text : List Char} {source : String} {v : Value} :
    parse text source = .ok v ↔ Yaml.load text = .ok (.value v) := by
  unfold parse read
  cases Yaml.load text with
  | error e => exact iff_of_false nofun nofun
  | ok r =>
    cases r with
    | value w => constructor <;> (intro h; cases h; rfl)
    | cyclic ns root => exact iff_of_false nofun nofun

section

variable {files : Files} {path : FilePath}

lemma readFile_of_text {cs : List Char} (h : readText files path = .ok cs) :
    readFile files path =
      if isJsonPath path then (parseJson cs path).map .value else read cs path.text := by
  simp only [readFile, h, bind, Except.bind]

lemma readFile_of_fault {f : Fault} (h : readText files path = .error f) :
    readFile files path = .error f := by
  simp only [readFile, h, bind, Except.bind]

/-- A file has the value of its text. -/
lemma load_of_text {cs : List Char} (h : readText files path = .ok cs) :
    load files path = if isJsonPath path then parseJson cs path else parse cs path.text := by
  unfold load
  rw [readFile_of_text h]
  split
  · cases parseJson cs path <;> rfl
  · rfl

end

end Document

/-! ### A schema and a document -/

/-- A schema file and a document file, and no others. -/
def twoFiles (schema document : String) : Files := fun path =>
  if path = ⟨"", ["s.json"]⟩ then .ok (asciiBytes schema)
  else if path = ⟨"", ["d.yaml"]⟩ then .ok (asciiBytes document)
  else .error .missing

lemma ofText_schemaFile : FilePath.ofText "s.json" = ⟨"", ["s.json"]⟩ :=
  FilePath.ofText_of_name (by decide) (by decide)

lemma ofText_documentFile : FilePath.ofText "d.yaml" = ⟨"", ["d.yaml"]⟩ :=
  FilePath.ofText_of_name (by decide) (by decide)

section

variable {schema document : String}

/-- The schema file is read as JSON. -/
lemma load_schemaFile (hascii : isAscii schema = true)
    (hbreaks : '\r' ∉ schema.toList) {v : Value} (h : Json.document schema.toList = .ok v) :
    Document.load (twoFiles schema document) (.ofText "s.json") = .ok v := by
  have htext : Document.readText (twoFiles schema document) ⟨"", ["s.json"]⟩ = .ok schema.toList :=
    readText_of_ascii (by decide +kernel) rfl hascii hbreaks
  rw [ofText_schemaFile, Document.load_of_text htext, if_pos (by decide +kernel)]
  exact except_mapError_eq_ok.2 h

/-- The document file is read as YAML. -/
lemma load_documentFile (hascii : isAscii document = true)
    (hbreaks : '\r' ∉ document.toList) {v : Value}
    (h : Yaml.load document.toList = .ok (.value v)) :
    Document.load (twoFiles schema document) (.ofText "d.yaml") = .ok v := by
  have htext : Document.readText (twoFiles schema document) ⟨"", ["d.yaml"]⟩ =
      .ok document.toList :=
    readText_of_ascii (by decide +kernel) rfl hascii hbreaks
  rw [ofText_documentFile, Document.load_of_text htext, if_neg (by decide +kernel)]
  exact Document.parse_eq_ok.2 h

end

end JsonSchema
