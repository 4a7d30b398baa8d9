import JsonSchema.Proofs.Command.Printing
import JsonSchema.Proofs.Files
import JsonSchema.Proofs.JsonForm

/-!
The status that a command ends with.

Main statement: once a command has a verdict, its status tells whether the document is valid, and
none of its options changes it. JSON text is written only where an option asks for it, and then all
that was read has to have a JSON form. Every JSON file does; a YAML file may hold keys that are
dates. Strings are shown as they are only outside of the JSON format, and then those that were read
have to be plain, since half of a pair cannot be printed.
-/

namespace JsonSchema.Command

open Value

/-- Whether an option asks for JSON text: of the verdict, or of the result. -/
def asksForJson (settings : Settings) (format : Option OutputFormat) (showResult : Bool) : Bool :=
  showResult || format.getD settings.outputFormat == .json

/-- Whether strings are shown as they are: those of the result, or of violations. -/
def showsStrings (settings : Settings) (format : Option OutputFormat) (showResult : Bool)
    (verdict : Verdict) : Bool :=
  format.getD settings.outputFormat == .table &&
    match verdict with
    | .valid _ => showResult
    | .invalid violations => !violations.isEmpty

/-- What is read from a file, if anything is, has a JSON form. -/
def ReadsJsonForm (files : Files) (path : FilePath) : Prop :=
  ∀ v, Document.load files path = .ok v → v.HasJsonForm

/-- The strings that are read from a file, if any are, have no half of a pair. -/
def ReadsPlainStrings (files : Files) (path : FilePath) : Prop :=
  ∀ v, Document.load files path = .ok v → v.HasPlainStrings

lemma readsJsonForm_of_isJsonPath {files : Files} {path : FilePath}
    (h : Document.isJsonPath path = true) : ReadsJsonForm files path := by
  intro v hv
  unfold Document.load Document.readFile at hv
  obtain ⟨reading, hreading, hv⟩ := except_bind_eq_ok.1 hv
  obtain ⟨text, htext, hreading⟩ := except_bind_eq_ok.1 hreading
  rw [if_pos h] at hreading
  cases hjson : Document.parseJson text path with
  | error f =>
    rw [hjson] at hreading
    cases hreading
  | ok w =>
    rw [hjson] at hreading
    cases hreading
    cases hv
    exact Json.hasJsonForm_document (except_mapError_eq_ok.1 hjson)

/-! ### Verdicts and what is written of them -/

/-- What is carried, and holds of what the files hold, holds of all that the verdict tells. -/
lemma holdsOf_verdictOnFiles {p isKey : Value → Bool} (hp : IsCarried p isKey) {files : Files}
    {schema document : FilePath}
    (hs : ∀ s, Document.load files schema = .ok s → s.everyPart p = true)
    (hd : ∀ d, Document.load files document = .ok d → d.everyPart p = true) :
    AnswersAre (fun verdict => HoldsOf p verdict.values)
      (verdictOnFiles files schema document).result := by
  refine .andThen (x := liftM (Document.load files schema)) hs fun s hs => ?_
  refine .andThen (x := liftM (Document.load files document)) hd fun d hd => .after fun _ => ?_
  exact hp.carries hs d .start hd holdsOf_nil

lemma hasAnswer_jsonOutput (q : Quoting) {v : Value} (h : v.HasJsonForm) :
    HasAnswer (jsonOutput q v) := hasAnswer_map _ (hasAnswer_indented q 0 v h)

section

variable {settings : Settings} {format : Option OutputFormat} {showResult : Bool}
  {verdict : Verdict} (document : String)

/-- A verdict has an output where JSON text is not asked for, or can be written. -/
lemma hasAnswer_verdictOutput (h : asksForJson settings format showResult = true →
      HoldsOf isJsonPart verdict.values) :
    HasAnswer (verdictOutput settings format document showResult verdict) := by
  unfold asksForJson at h
  unfold verdictOutput
  cases hformat : format.getD settings.outputFormat with
  | json => exact hasAnswer_jsonOutput _ (Verdict.hasJsonForm_toValue (h (by simp [hformat])))
  | table =>
    cases verdict with
    | valid result =>
      cases showResult with
      | true =>
        have hresult := hasAnswer_jsonOutput .raw (h rfl result List.mem_cons_self)
        exact (hasAnswer_bind_of fun _ _ => hasAnswer_pure _).2 hresult
      | false => exact hasAnswer_ok _
    | invalid violations => cases violations <;> exact hasAnswer_ok _

/-- The output of a verdict has no halves where no strings are shown, or plain ones. -/
lemma noHalves_verdictOutput (h : showsStrings settings format showResult verdict = true →
      HoldsOf isPlainString verdict.values) :
    AnswersAre Terminal.NoHalves
      (verdictOutput settings format document showResult verdict) := by
  unfold showsStrings at h
  unfold verdictOutput
  cases hformat : format.getD settings.outputFormat with
  | json => exact noHalves_jsonOutput (by rintro ⟨⟩)
  | table =>
    rw [hformat] at h
    have hvalid := noHalves_marked (noHalf_validLine document)
    cases verdict with
    | valid result =>
      cases showResult with
      | true =>
        have hplain := h rfl result List.mem_cons_self
        refine .bind (noHalves_jsonOutput fun _ => hplain) fun _ hlines => ?_
        exact .ok (hvalid.append hlines)
      | false => exact .ok (hvalid.append Terminal.noHalves_nil)
    | invalid violations =>
      cases violations with
      | nil => exact .ok (noHalves_marked ((noHalf_invalidLine document).append
          noHalf_nothingReported))
      | cons v rest => exact .ok (noHalves_violationOutput document _ (holdsOf_flatMap.1 (h rfl)))

end

/-- Lines without halves are printed. -/
lemma exists_printed {shown : List (List Point)} (h : Terminal.NoHalves shown) (status : Nat)
    (reports : List String) : ∃ lines, printed shown = .ok lines ∧
      endWith status (.ok shown) reports = .finished status lines reports := by
  obtain ⟨lines, hlines⟩ := hasAnswer_printed h
  have hprinted : (Except.ok shown >>= printed) = .ok lines := hlines
  exact ⟨lines, hlines, by rw [endWith, hprinted]⟩

/-- So is an output without halves, if there is one. -/
lemma exists_endWith {output : Except Fault (List (List Point))} (houtput : HasAnswer output)
    (hhalves : AnswersAre Terminal.NoHalves output) (status : Nat) (reports : List String) :
    ∃ lines, endWith status output reports = .finished status lines reports := by
  obtain ⟨shown, rfl⟩ := houtput
  obtain ⟨lines, -, hend⟩ := exists_printed (hhalves shown rfl) status reports
  exact ⟨lines, hend⟩

/-! ### Runs -/

/-- Every level that a command or its settings can name is known. -/
lemma hasAnswer_configure (settings : Settings) (level : Option LogLevel) :
    HasAnswer (Logging.configure settings (level.map LogLevel.name)) := by
  have hknown : ∀ l : LogLevel, HasAnswer (Logging.severityOf l.name) := by
    intro l
    cases l <;> exact ⟨_, rfl⟩
  refine (hasAnswer_bind_of fun _ _ => hasAnswer_pure _).2 ?_
  cases level with
  | none => exact hknown settings.logLevel
  | some l => cases l <;> exact ⟨_, rfl⟩

/-- With settings that are good, a task that is asked for is carried out. -/
lemma run_eq_runTask {environment : EnvFile.Variables} {files : Files} {words : List String}
    {request : Request} {task : Task} {warnings : List String} {settings : Settings}
    (hrequest : Request.ofWords words = .ok request) (htask : request.task = .ok task)
    (hsettings : Settings.load environment files = .ok (warnings, .ok settings)) :
    ∃ logging, run environment files words = runTask settings logging warnings files task := by
  obtain ⟨logging, hlogging⟩ := hasAnswer_configure settings request.level
  refine ⟨logging, ?_⟩
  have hconfigured : (do
      let settings ← (.ok settings : Except Fault Settings)
      return (settings, ← Logging.configure settings (request.level.map LogLevel.name))) =
      .ok (settings, logging) :=
    except_bind_eq_ok.2 ⟨settings, rfl, except_bind_eq_ok.2 ⟨logging, hlogging, rfl⟩⟩
  simp only [run, hrequest, Request.run, hsettings, hconfigured, htask]

/-- With a verdict, it is for its output alone whether the command ends with a status. -/
lemma run_of_verdict {environment : EnvFile.Variables} {files : Files} {words : List String}
    {level : Option LogLevel} {schema document : String} {format : Option OutputFormat}
    {showResult : Bool} {warnings : List String} {settings : Settings} {verdict : Verdict}
    (hrequest : Request.ofWords words =
      .ok ⟨level, .ok (.validate schema document format showResult)⟩)
    (hsettings : Settings.load environment files = .ok (warnings, .ok settings))
    (hverdict : (verdictOnFiles files (.ofText schema) (.ofText document)).result = .ok verdict) :
    ∃ reports, run environment files words = endWith (verdictStatus verdict)
      (verdictOutput settings format (FilePath.ofText document).text showResult verdict)
      reports := by
  obtain ⟨logging, hrun⟩ := run_eq_runTask hrequest rfl hsettings
  rw [hrun]
  unfold runTask
  simp only [hverdict]
  exact ⟨_, rfl⟩

/-! ### Two small files -/

/-- Without variables all settings have their defaults. -/
lemma settings_twoFiles (schema document : String) :
    Settings.load [] (twoFiles schema document) = .ok ([], .ok {}) := by
  have hpath : Settings.filePath = ⟨"", [".env"]⟩ :=
    FilePath.ofText_of_name (by decide) (by decide)
  have hcontent : Settings.fileContent (twoFiles schema document) = .ok ⟨[], []⟩ := by
    rw [Settings.fileContent, hpath]
    rfl
  rw [Settings.load, hcontent]
  rfl

/-- The verdict on a document under a schema that takes everything. -/
lemma verdict_twoFiles {document : String} {v : Value}
    (h : Document.load (twoFiles "true" document) (.ofText "d.yaml") = .ok v) :
    (verdictOnFiles (twoFiles "true" document) (.ofText "s.json") (.ofText "d.yaml")).result =
      .ok (.valid v) := by
  have hschema : Document.load (twoFiles "true" document) (.ofText "s.json") = .ok (.bool true) :=
    load_schemaFile (by decide) (by decide) rfl
  refine Outcome.result_bind_eq_ok.2 ⟨_, hschema, ?_⟩
  refine Outcome.result_bind_eq_ok.2 ⟨_, h, ?_⟩
  refine Outcome.result_bind_eq_ok.2 ⟨(), rfl, ?_⟩
  rw [Validation.validate_true]
  rfl

def pairGraph (tag : Yaml.Tag) (key member : String) : Yaml.Graph :=
  ⟨[(0, .mapping .map [(1, 2)]), (2, .scalar .str member), (1, .scalar tag key)], 3, 0⟩

lemma load_answers (schema : String) :
    Document.load (twoFiles schema "yes: opened") (.ofText "d.yaml") =
      .ok (.object [(.bool true, .string "opened")]) :=
  load_documentFile (by decide) (by decide)
    (Yaml.load_of_graph (g := pairGraph .bool "yes" "opened") (by decide +kernel) rfl)

/-! ### Statuses -/

/-- **The status of a command tells whether the document is valid.** Given a verdict on the two
files, the command ends with zero if the document is valid and with one if it is not, whatever the
format, the number of rows and the other options and settings are. If they ask for JSON text, what
is read from files that are no JSON files has to have a JSON form; if they make strings be shown as
they are, no string that is read may have half of a pair. -/
theorem status_of_verdict {environment : EnvFile.Variables} {files : Files} {words : List String}
    {level : Option LogLevel} {schema document : String} {format : Option OutputFormat}
    {showResult : Bool} {warnings : List String} {settings : Settings} {verdict : Verdict}
    (hrequest : Request.ofWords words =
      .ok ⟨level, .ok (.validate schema document format showResult)⟩)
    (hsettings : Settings.load environment files = .ok (warnings, .ok settings))
    (hverdict : (verdictOnFiles files (.ofText schema) (.ofText document)).result = .ok verdict)
    (hform : asksForJson settings format showResult = true →
      ∀ path ∈ [FilePath.ofText schema, .ofText document],
        Document.isJsonPath path = false → ReadsJsonForm files path)
    (hplain : showsStrings settings format showResult verdict = true →
      ∀ path ∈ [FilePath.ofText schema, .ofText document], ReadsPlainStrings files path) :
    ∃ output reports, run environment files words =
      .finished (if verdict.isValid then 0 else 1) output reports := by
  have hreads : asksForJson settings format showResult = true →
      ∀ path ∈ [FilePath.ofText schema, .ofText document], ReadsJsonForm files path := by
    intro hasks path hpath
    cases hjson : Document.isJsonPath path with
    | true => exact readsJsonForm_of_isJsonPath hjson
    | false => exact hform hasks path hpath hjson
  have houtput := hasAnswer_verdictOutput (FilePath.ofText document).text fun hasks =>
    holdsOf_verdictOnFiles isCarried_isJsonPart (hreads hasks _ (by simp))
      (hreads hasks _ (by simp)) _ hverdict
  have hhalves := noHalves_verdictOutput (FilePath.ofText document).text fun hshows =>
    holdsOf_verdictOnFiles isCarried_isPlainString (hplain hshows _ (by simp))
      (hplain hshows _ (by simp)) _ hverdict
  obtain ⟨reports, hrun⟩ := run_of_verdict hrequest hsettings hverdict
  obtain ⟨lines, hlines⟩ := exists_endWith houtput hhalves (verdictStatus verdict) reports
  exact ⟨lines, reports, by rw [hrun, hlines, verdictStatus]⟩

/-- A key that is a boolean is written as a string, and all strings are plain, so that the result
can be shown. -/
theorem status_of_verdict_opened :
    asksForJson {} none true = true ∧ Document.isJsonPath (.ofText "d.yaml") = false ∧
      showsStrings {} none true (.valid (.object [(.bool true, .string "opened")])) = true ∧
      ∃ output reports, run [] (twoFiles "true" "yes: opened")
        ["validate", "s.json", "d.yaml", "--show-result"] = .finished 0 output reports := by
  have hschema : Document.load (twoFiles "true" "yes: opened") (.ofText "s.json") =
      .ok (.bool true) := load_schemaFile (by decide) (by decide) rfl
  have hdocument := load_answers "true"
  have hpaths : Document.isJsonPath (.ofText "s.json") = true ∧
      Document.isJsonPath (.ofText "d.yaml") = false := by
    rw [ofText_schemaFile, ofText_documentFile]
    decide +kernel
  refine ⟨rfl, hpaths.2, rfl, ?_⟩
  refine status_of_verdict (show Request.ofWords ["validate", "s.json", "d.yaml", "--show-result"] =
      .ok ⟨none, .ok (.validate "s.json" "d.yaml" none true)⟩ from rfl) (settings_twoFiles _ _)
    (verdict_twoFiles hdocument) (fun _ path hpath hno v hv => ?_) (fun _ path hpath v hv => ?_)
  · rcases List.mem_cons.1 hpath with rfl | hpath
    · cases hpaths.1.symm.trans hno
    · obtain rfl := List.mem_singleton.1 hpath
      obtain rfl := Except.ok.inj (hdocument.symm.trans hv)
      decide
  · rcases List.mem_cons.1 hpath with rfl | hpath
    · obtain rfl := Except.ok.inj (hschema.symm.trans hv)
      decide
    · obtain rfl := List.mem_singleton.1 hpath
      obtain rfl := Except.ok.inj (hdocument.symm.trans hv)
      decide

/-- With default settings, no JSON text and no string is asked for without options. -/
lemma run_without_options {document : String} {v : Value}
    (hload : Document.load (twoFiles "true" document) (.ofText "d.yaml") = .ok v) :
    ∃ output reports, run [] (twoFiles "true" document) ["validate", "s.json", "d.yaml"] =
      .finished 0 output reports := by
  obtain ⟨reports, hrun⟩ := run_of_verdict
    (show Request.ofWords ["validate", "s.json", "d.yaml"] =
      .ok ⟨none, .ok (.validate "s.json" "d.yaml" none false)⟩ from rfl)
    (settings_twoFiles "true" document) (verdict_twoFiles hload)
  have hasks : asksForJson {} none false ≠ true := Bool.false_ne_true
  have hshows : showsStrings {} none false (.valid v) ≠ true := Bool.false_ne_true
  obtain ⟨lines, hlines⟩ := exists_endWith (hasAnswer_verdictOutput _ fun h => absurd h hasks)
    (noHalves_verdictOutput _ fun h => absurd h hshows) 0 reports
  exact ⟨lines, reports, by rw [hrun, verdictStatus, Verdict.isValid, if_pos rfl, hlines]⟩

/-- A key that is a date has no JSON form. The document is found valid as long as no JSON text is
asked for, and with JSON text the command ends without a status. -/
theorem status_lost_at_date :
    ∃ v, (verdictOnFiles (twoFiles "true" "2020-01-01: opened") (.ofText "s.json")
        (.ofText "d.yaml")).result = .ok (.valid v) ∧
      (∃ output reports, run [] (twoFiles "true" "2020-01-01: opened")
        ["validate", "s.json", "d.yaml"] = .finished 0 output reports) ∧
      (∃ fault, run [] (twoFiles "true" "2020-01-01: opened")
        ["validate", "s.json", "d.yaml", "--format", "json"] = .broken fault) ∧
      ∃ fault, run [] (twoFiles "true" "2020-01-01: opened")
        ["validate", "s.json", "d.yaml", "--show-result"] = .broken fault := by
  have hload : Document.load (twoFiles "true" "2020-01-01: opened") (.ofText "d.yaml") =
      .ok (.object [(.date ⟨2020, 1, 1⟩, .string "opened")]) :=
    load_documentFile (by decide) (by decide)
      (Yaml.load_of_graph (g := pairGraph .timestamp "2020-01-01" "opened") (by decide +kernel) rfl)
  have hverdict := verdict_twoFiles hload
  have hsettings := settings_twoFiles "true" "2020-01-01: opened"
  refine ⟨_, hverdict, run_without_options hload, ?_, ?_⟩
  · obtain ⟨reports, hrun⟩ := run_of_verdict
      (show Request.ofWords ["validate", "s.json", "d.yaml", "--format", "json"] =
        .ok ⟨none, .ok (.validate "s.json" "d.yaml" (some .json) false)⟩ from rfl)
      hsettings hverdict
    exact ⟨_, hrun⟩
  · obtain ⟨reports, hrun⟩ := run_of_verdict
      (show Request.ofWords ["validate", "s.json", "d.yaml", "--show-result"] =
        .ok ⟨none, .ok (.validate "s.json" "d.yaml" none true)⟩ from rfl) hsettings hverdict
    exact ⟨_, hrun⟩

lemma printed_of_half {lines : List (List Point)}
    (h : ∃ line ∈ lines, ∃ p ∈ line, p.isHalf = true) :
    printed lines = .error .notUnicode := by
  obtain ⟨line, hline, p, hp, hhalf⟩ := h
  refine if_neg fun hall => ?_
  have hp := List.all_eq_true.1 (List.all_eq_true.1 hall line hline) p hp
  rw [hhalf] at hp
  cases hp

/-- Half of a pair has no bytes. The document is found valid as long as it is not shown, or shown in
the escapes of the JSON format, and the command ends without a status where it is shown raw. -/
theorem status_lost_at_half :
    ∃ v, (verdictOnFiles (twoFiles "true" "\"\\ud800\"") (.ofText "s.json")
        (.ofText "d.yaml")).result = .ok (.valid v) ∧
      (∃ output reports, run [] (twoFiles "true" "\"\\ud800\"")
        ["validate", "s.json", "d.yaml", "--format", "json"] = .finished 0 output reports) ∧
      run [] (twoFiles "true" "\"\\ud800\"")
        ["validate", "s.json", "d.yaml", "--show-result"] = .broken .notUnicode := by
  have hload : Document.load (twoFiles "true" "\"\\ud800\"") (.ofText "d.yaml") =
      .ok (.string (.ofPoints [.ofCode 0xd800])) :=
    load_documentFile (by decide) (by decide)
      (Yaml.load_of_graph (g := ⟨[(0, .scalar .str (.ofPoints [.ofCode 0xd800]))], 1, 0⟩)
        (by decide +kernel) rfl)
  have hverdict := verdict_twoFiles hload
  have hsettings := settings_twoFiles "true" "\"\\ud800\""
  refine ⟨_, hverdict, ?_, ?_⟩
  · obtain ⟨reports, hrun⟩ := run_of_verdict
      (show Request.ofWords ["validate", "s.json", "d.yaml", "--format", "json"] =
        .ok ⟨none, .ok (.validate "s.json" "d.yaml" (some .json) false)⟩ from rfl)
      hsettings hverdict
    exact ⟨_, _, hrun⟩
  · obtain ⟨reports, hrun⟩ := run_of_verdict
      (show Request.ofWords ["validate", "s.json", "d.yaml", "--show-result"] =
        .ok ⟨none, .ok (.validate "s.json" "d.yaml" none true)⟩ from rfl) hsettings hverdict
    have hprinted : printed (marked (validLine (FilePath.ofText "d.yaml").text) ++
        [[.char '"', .ofCode 0xd800, .char '"']]) = .error .notUnicode :=
      printed_of_half ⟨_, List.mem_append_right _ List.mem_cons_self, .ofCode 0xd800,
        by decide, rfl⟩
    have houtput : (verdictOutput {} none (FilePath.ofText "d.yaml").text true
        (.valid (.string (.ofPoints [.ofCode 0xd800]))) >>= printed) = .error .notUnicode :=
      hprinted
    rw [hrun, endWith, houtput]

end JsonSchema.Command
