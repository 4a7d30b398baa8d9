import JsonSchema.Proofs.Applicable
import JsonSchema.Proofs.Command.Status

/-!
How a command reports what is wrong with a schema.

A defect of the schema is printed and makes the status two. Main statement: where every keyword can
be applied and what is to be told can be printed, the command ends in no other way without a
verdict, unless an integer is beyond the doubles. A keyword that cannot be applied is not told, and
half of a pair cannot be printed; then the command ends without a status.
-/

namespace JsonSchema.Command

open Value

section

variable {environment : EnvFile.Variables} {files : Files} {words : List String}
  {level : Option LogLevel} {schema document : String} {format : Option OutputFormat}
  {showResult : Bool} {warnings : List String} {settings : Settings}

/-- Without a verdict, a command ends at the fault. -/
lemma run_of_fault {fault : Fault}
    (hrequest : Request.ofWords words =
      .ok ⟨level, .ok (.validate schema document format showResult)⟩)
    (hsettings : Settings.load environment files = .ok (warnings, .ok settings))
    (hfault : (verdictOnFiles files (.ofText schema) (.ofText document)).result = .error fault) :
    ∃ reports, run environment files words = endAt fault reports := by
  obtain ⟨logging, hrun⟩ := run_eq_runTask hrequest rfl hsettings
  rw [hrun]
  unfold runTask
  simp only [hfault]
  exact ⟨_, rfl⟩

lemma result_verdictOnFiles {path path' : FilePath} {s d : Value}
    (hs : Document.load files path = .ok s) (hd : Document.load files path' = .ok d) :
    (verdictOnFiles files path path').result =
      requireSchema s >>= fun _ => (validate s d .start).result := by
  unfold verdictOnFiles
  rw [Outcome.result_bind, Outcome.result_liftM, hs]
  show (Outcome.result _) = _
  rw [Outcome.result_bind, Outcome.result_liftM, hd]
  show (Outcome.result _) = _
  rw [Outcome.result_bind, Outcome.result_liftM]

/-- What fails on two files that are loaded, fails on what they hold. -/
lemma told_verdictOnFiles {small : Prop} {path path' : FilePath} {s d : Value}
    (hs : Document.load files path = .ok s) (hd : Document.load files path' = .ok d)
    (happly : s.isApplicable = true) (hsr : small → s.everyPart isInRange = true)
    (hdr : small → d.everyPart isInRange = true) :
    Told small (verdictOnFiles files path path').result := by
  rw [result_verdictOnFiles hs hd]
  refine .bind ?_ fun _ => failsTold_of_isApplicable happly hsr d hdr .start
  unfold requireSchema
  split
  · exact .ok _
  · exact told_defect _ _

/-- A fault that is reported is printed if its text is plain. -/
lemma exists_endAt {fault : Fault} {reports : List String} (hreported : isReported fault = true)
    (hplain : fault.text.isPlain = true) :
    ∃ lines, printed (errorOutput fault.text) = .ok lines ∧
      endAt fault reports = .finished faultStatus lines reports := by
  obtain ⟨lines, hlines, hend⟩ :=
    exists_printed (noHalves_errorOutput hplain) faultStatus reports
  exact ⟨lines, hlines, by rw [endAt, if_pos hreported, hend]⟩

/-- **A command reports what is wrong with a schema.** If there is no verdict on a document by a
schema whose keywords can all be applied, then something stands where a schema should or a pattern
cannot be read, and the command prints so and ends with two, provided that no half of a pair is to
be printed; or an integer of the schema or of the document is beyond the doubles. -/
theorem status_of_fault {s d : Value} {fault : Fault}
    (hrequest : Request.ofWords words =
      .ok ⟨level, .ok (.validate schema document format showResult)⟩)
    (hsettings : Settings.load environment files = .ok (warnings, .ok settings))
    (hs : Document.load files (.ofText schema) = .ok s)
    (hd : Document.load files (.ofText document) = .ok d)
    (happly : s.isApplicable = true)
    (hfault : (verdictOnFiles files (.ofText schema) (.ofText document)).result = .error fault)
    (hplain : fault.text.isPlain = true) :
    (∃ defect location, fault = .schema defect location ∧
      ∃ lines reports,
        printed (errorOutput (location.text ++ ": " ++ defect.message)) = .ok lines ∧
        run environment files words = .finished 2 lines reports) ∨
    (fault = .tooLarge ∨ fault = .tooManyDigits) ∧
      ¬(s.everyPart isInRange = true ∧ d.everyPart isInRange = true) := by
  have htold := told_verdictOnFiles hs hd happly And.left And.right fault hfault
  cases fault with
  | schema defect location =>
    obtain ⟨reports, hrun⟩ := run_of_fault hrequest hsettings hfault
    obtain ⟨lines, hlines, hend⟩ := exists_endAt rfl hplain
    exact .inl ⟨defect, location, rfl, lines, reports, hlines, hrun.trans hend⟩
  | tooLarge => exact .inr ⟨.inl rfl, htold⟩
  | tooManyDigits => exact .inr ⟨.inr rfl, htold⟩
  | _ => cases htold

end

/-- A schema of objects without additional members, if it is read as such. -/
def closedSchema : String := "\x7b\"type\": \"object\", \"additionalProperties\": 0\x7d"

/-- A number in the place of a schema is told. -/
theorem status_of_fault_closed :
    ∃ lines reports,
      printed (errorOutput "#: Schema node must be a boolean or an object, got int") = .ok lines ∧
      run [] (twoFiles closedSchema "yes: opened") ["validate", "s.json", "d.yaml"] =
        .finished 2 lines reports := by
  obtain ⟨s, hread, hs⟩ := exists_of_any
    (show (Json.document closedSchema.toList).toOption.any (fun s => s.isApplicable && decide
      (Validation.toldDefect? (requireSchema s >>= fun _ =>
        (validate s (.object [(.bool true, .string "opened")]) .start).result) =
          some (.notASchema "int", Text.ofString "#"))) = true by decide +kernel)
  rw [Bool.and_eq_true, decide_eq_true_iff] at hs
  have hschema : Document.load (twoFiles closedSchema "yes: opened") (.ofText "s.json") = .ok s :=
    load_schemaFile (by decide) (by decide) hread
  have hdocument := load_answers closedSchema
  obtain ⟨location, hfault, htext⟩ := Validation.exists_of_toldDefect? hs.2
  rw [← result_verdictOnFiles hschema hdocument] at hfault
  have hplain : (location.text ++ ": " ++ (SchemaDefect.notASchema "int").message).isPlain =
      true := by
    rw [htext]
    rfl
  rcases status_of_fault (show Request.ofWords ["validate", "s.json", "d.yaml"] =
      .ok ⟨none, .ok (.validate "s.json" "d.yaml" none false)⟩ from rfl)
    (settings_twoFiles _ _) hschema hdocument hs.1 hfault hplain with
    ⟨_, _, heq, lines, reports, hlines, hrun⟩ | hlarge
  · cases heq
    rw [htext] at hlines
    exact ⟨lines, reports, hlines, hrun⟩
  · rcases hlarge.1 with heq | heq <;> cases heq

/-- The use that a computation fails on for the kind of a value. -/
def misuse? {α : Type} : Except Fault α → Option Misuse
  | .error (.misuse use) => some use
  | _ => none

lemma eq_of_misuse? {α : Type} {x : Except Fault α} {use : Misuse} (h : misuse? x = some use) :
    x = .error (.misuse use) := by
  unfold misuse? at h
  split at h <;> cases h
  rfl

def boundSchema : String := "\x7b\"type\": \"string\", \"minLength\": \"3\"\x7d"

/-- A bound that is no number is not told, and the command ends without a status. -/
theorem status_lost_at_bound :
    ∃ s, Document.load (twoFiles boundSchema "opened") (.ofText "s.json") = .ok s ∧
      Document.load (twoFiles boundSchema "opened") (.ofText "d.yaml") = .ok (.string "opened") ∧
      (validate s (.string "opened") .start).result = .error (.misuse (.incomparable "str")) ∧
      run [] (twoFiles boundSchema "opened") ["validate", "s.json", "d.yaml"] =
        .broken (.misuse (.incomparable "str")) := by
  obtain ⟨s, hread, hs⟩ := exists_of_any
    (show (Json.document boundSchema.toList).toOption.any (fun s => (requireSchema s).isOk && decide
      (misuse? (validate s (.string "opened") .start).result = some (.incomparable "str"))) = true
      by decide +kernel)
  rw [Bool.and_eq_true, decide_eq_true_iff] at hs
  have hschema : Document.load (twoFiles boundSchema "opened") (.ofText "s.json") = .ok s :=
    load_schemaFile (by decide) (by decide) hread
  have hyaml : Yaml.load "opened".toList = .ok (.value (.string "opened")) := rfl
  have hdocument : Document.load (twoFiles boundSchema "opened") (.ofText "d.yaml") =
      .ok (.string "opened") := load_documentFile (by decide) (by decide) hyaml
  have hfault := eq_of_misuse? hs.2
  obtain ⟨_, hrequire⟩ := exists_of_isOk hs.1
  obtain ⟨reports, hrun⟩ := run_of_fault (show Request.ofWords ["validate", "s.json", "d.yaml"] =
      .ok ⟨none, .ok (.validate "s.json" "d.yaml" none false)⟩ from rfl)
    (settings_twoFiles boundSchema "opened")
    (by rw [result_verdictOnFiles hschema hdocument, hrequire]; exact hfault)
  exact ⟨s, hschema, hdocument, hfault, hrun⟩

end JsonSchema.Command
