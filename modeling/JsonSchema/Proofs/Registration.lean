import JsonSchema.Registry
import JsonSchema.Proofs.Answer
import JsonSchema.Proofs.Files
import Mathlib.Data.List.Nodup

/-!
What a registry holds after any run of steps.

A step leaves a registry as it is, or it ends with an answer and gives a free name a schema. Main
statement: after a run of steps on an empty registry, each step with the files of its time, the
names are those of the steps that registered something and did not fail, in order and each once;
each name has the schema of its step for good; and no step that fails or only reads changes
anything.

The step lemma `perform_cases` says all that one step can do, and the run follows by induction.
-/

namespace JsonSchema.Registry

/-! ### Computations on a registry -/

namespace Session

variable {α β : Type} {x : Session α} {f : α → Session β} {r next : Registry}

lemma bind_of_ok {a : α} {notices : List Notice} (h : x r = (next, ⟨notices, .ok a⟩)) :
    (x >>= f) r = ((f a next).1, ⟨notices ++ (f a next).2.notices, (f a next).2.result⟩) := by
  show andThen x f r = _
  unfold andThen
  rw [h]

lemma bind_of_fail {fault : Fault} (h : x r = (next, .fail fault)) :
    (x >>= f) r = (next, .fail fault) := by
  show andThen x f r = _
  unfold andThen
  rw [h]
  rfl

end Session

/-- What is left of a registry after a fault that came before anything was done or reported. -/
def Undone {α : Type} (r : Registry) (left : Registry × Outcome α) : Prop :=
  ∃ fault, left = (r, .fail fault)

section

variable {α β : Type} {x : Session α} {r : Registry} {Q : Prop}

lemma Undone.bind (h : Undone r (x r)) (f : α → Session β) : Undone r ((x >>= f) r) := by
  obtain ⟨fault, h⟩ := h
  exact ⟨fault, Session.bind_of_fail h⟩

/-- A part that only computes ends in a fault, or what follows it starts where it started. -/
lemma undone_or_of_goes_on {y : Except Fault α} {f : α → Session β} (h : x r = (r, .ofExcept y))
    (hf : ∀ a, y = .ok a → (x >>= f) r = f a r → Undone r ((x >>= f) r) ∨ Q) :
    Undone r ((x >>= f) r) ∨ Q := by
  cases y with
  | error fault => exact .inl (.bind ⟨fault, h⟩ f)
  | ok a => exact hf a rfl ((Session.bind_of_ok h).trans rfl)

end

/-! ### Registering -/

lemma contains_of_requireFree {r : Registry} {name : String}
    (h : r.requireFree name = .ok ()) : r.contains name = false := by
  unfold requireFree at h
  split at h
  · cases h
  · simpa using ‹¬r.contains name = true›

/-- A schema is registered under a free name, or nothing is done. -/
lemma register_cases (r : Registry) (name : String) (schema : Value) :
    Undone r (register name schema r) ∨ r.contains name = false ∧
      register name schema r = (r.add name schema, ⟨[.registered name], .ok ()⟩) := by
  unfold register
  refine undone_or_of_goes_on rfl fun _ hfree h => ?_
  rw [h]
  refine undone_or_of_goes_on rfl fun _ hschema h => ?_
  rw [h]
  exact .inr ⟨contains_of_requireFree hfree, rfl⟩

lemma eq_of_schemaOf {path : String} {document schema : Value}
    (h : schemaOf path document = .ok schema) : document = schema := by
  unfold schemaOf at h
  split at h <;> cases h
  rfl

/-- The document of a file is registered under a free name, or nothing is done. -/
lemma loadFile_cases (files : Files) (r : Registry) (name path : String) :
    Undone r (loadFile files name path r) ∨ r.contains name = false ∧
      ∃ schema, Document.load files (.ofText path) = .ok schema ∧
        loadFile files name path r =
          (r.add name schema, ⟨[.registered name, .loaded name path], .ok schema⟩) := by
  unfold loadFile
  refine undone_or_of_goes_on rfl fun document hload h => ?_
  rw [h]
  refine undone_or_of_goes_on rfl fun schema hschema h => ?_
  obtain rfl := eq_of_schemaOf hschema
  rw [h]
  rcases register_cases r name document with hundone | ⟨hfree, h⟩
  · exact .inl (hundone.bind _)
  · exact .inr ⟨hfree, document, hload, by rw [Session.bind_of_ok h]; rfl⟩

/-! ### One step -/

/-- The name that a step would give. -/
def Step.name? : Step → Option String
  | .register name _ => some name
  | .loadFile name _ => some name
  | _ => none

/-- The schema that a step would give a name: the one that it brings along, or the document of its
file. -/
def Step.schema? (files : Files) : Step → Option Value
  | .register _ schema => some schema
  | .loadFile _ path => (Document.load files (.ofText path)).toOption
  | _ => none

/-- A step that only reads. -/
lemma perform_of_reading {step : Step} (h : step.name? = none) (files : Files) (r : Registry) :
    (perform files step r).1 = r := by
  cases step with
  | register name schema => cases h
  | loadFile name path => cases h
  | _ => rfl

/-- A step that would give a name gives it, and ends with an answer, or fails and does nothing. -/
lemma perform_of_name {step : Step} {name : String} (h : step.name? = some name) (files : Files)
    (r : Registry) : Undone r (perform files step r) ∨ r.contains name = false ∧
      ∃ schema, step.schema? files = some schema ∧ (perform files step r).1 = r.add name schema ∧
        (perform files step r).2.result.isOk = true := by
  cases step with
  | register name schema =>
    cases h
    rcases register_cases r name schema with hundone | ⟨hfree, h⟩
    · exact .inl (hundone.bind _)
    refine .inr ⟨hfree, schema, rfl, ?_⟩
    rw [perform, Session.bind_of_ok h]
    exact ⟨rfl, rfl⟩
  | loadFile name path =>
    cases h
    rcases loadFile_cases files r name path with hundone | ⟨hfree, schema, hload, h⟩
    · exact .inl (hundone.bind _)
    refine .inr ⟨hfree, schema, ?_, ?_⟩
    · rw [Step.schema?, hload]
      rfl
    · rw [perform, Session.bind_of_ok h]
      exact ⟨rfl, rfl⟩
  | _ => cases h

/-- All that one step can do: nothing, and then it fails or only reads; or give a free name a
schema. -/
lemma perform_cases (files : Files) (step : Step) (r : Registry) :
    ((perform files step r).1 = r ∧
        ∀ name, step.name? = some name → (perform files step r).2.result.isOk = false) ∨
      ∃ name schema, step.name? = some name ∧ step.schema? files = some schema ∧
        (perform files step r).2.result.isOk = true ∧ name ∉ r.names ∧
        (perform files step r).1 = r.add name schema := by
  cases hn : step.name? with
  | none => exact .inl ⟨perform_of_reading hn files r, nofun⟩
  | some name =>
    rcases perform_of_name hn files r with ⟨fault, hundone⟩ | ⟨hfree, schema, hs, hadd, hok⟩
    · rw [hundone]
      exact .inl ⟨rfl, fun _ _ => rfl⟩
    · exact .inr ⟨name, schema, rfl, hs, hok, by simpa [contains] using hfree, hadd⟩

/-- A step that fails or only reads does nothing. -/
lemma perform_of_idle {files : Files} {step : Step} {r : Registry}
    (h : (perform files step r).2.result.isOk = false ∨ step.name? = none) :
    (perform files step r).1 = r := by
  rcases perform_cases files step r with ⟨hsame, -⟩ | ⟨name, schema, hn, -, hok, -, -⟩
  · exact hsame
  · rcases h with h | h
    · cases h.symm.trans hok
    · cases h.symm.trans hn

/-! ### Reading -/

lemma names_add (r : Registry) (name : String) (schema : Value) :
    (r.add name schema).names = r.names ++ [name] := by
  simp [names, add]

/-- Where all names are different, a schema is found under its name. -/
lemma get_of_mem {r : Registry} (hr : r.names.Nodup) {name : String} {schema : Value}
    (h : (name, schema) ∈ r.schemas) : r.get name = .ok schema := by
  have hfound : r.find? name = some schema := by
    cases hf : r.schemas.find? (fun s => s.1 == name) with
    | none => simpa using List.find?_eq_none.1 hf _ h
    | some found =>
      have hname : found.1 = name := by simpa using List.find?_some hf
      have hsame := List.inj_on_of_nodup_map hr (List.mem_of_find?_eq_some hf) h hname
      simp [find?, hf, hsame]
  rw [get, hfound]

lemma get_of_not_mem {r : Registry} {name : String} (h : name ∉ r.names) :
    r.get name = .error (.nameUnknown name) := by
  have hfound : r.find? name = none := by
    simp only [find?, Option.map_eq_none_iff, List.find?_eq_none]
    rintro s hs hname
    exact h (List.mem_map.2 ⟨s, hs, by simpa using hname⟩)
  rw [get, hfound]

lemma result_validate {r : Registry} {name : String} {schema : Value} (h : r.get name = .ok schema)
    (value : Value) :
    (r.validate name value).result = (JsonSchema.validate schema value .start).result := by
  unfold validate
  simp only [Outcome.result_bind, Outcome.result_liftM, h]
  show (JsonSchema.validate schema value .start).result >>= _ = _
  cases (JsonSchema.validate schema value .start).result <;> rfl

lemma result_validate_unknown {r : Registry} {name : String} {fault : Fault}
    (h : r.get name = .error fault) (value : Value) :
    (r.validate name value).result = .error fault := by
  unfold validate
  simp only [Outcome.result_bind, Outcome.result_liftM, h]
  rfl

lemma result_perform_get (files : Files) (name : String) (r : Registry) :
    (perform files (.get name) r).2.result = Answer.schema <$> r.get name := by
  show (Answer.schema <$> Outcome.ofExcept (r.get name)).result = _
  rw [Outcome.result_map, Outcome.result_ofExcept]

lemma result_perform_validate (files : Files) (name : String) (value : Value) (r : Registry) :
    (perform files (.validate name value) r).2.result =
      Answer.verdict <$> (r.validate name value).result :=
  Outcome.result_map _ _

/-! ### Runs -/

abbrev Event := (Files × Step) × Outcome Answer

/-- The name that a step gave, if it would give one and ended with an answer. -/
def Event.given? (e : Event) : Option String :=
  if e.2.result.isOk then e.1.2.name? else none

def log (r : Registry) (steps : List (Files × Step)) : List Event :=
  steps.zip (r.runEach steps).2

lemma log_cons (r : Registry) (files : Files) (step : Step) (rest : List (Files × Step)) :
    r.log ((files, step) :: rest) =
      ((files, step), (perform files step r).2) :: (perform files step r).1.log rest := rfl

lemma runEach_cons (r : Registry) (files : Files) (step : Step) (rest : List (Files × Step)) :
    (r.runEach ((files, step) :: rest)).1 = ((perform files step r).1.runEach rest).1 := rfl

lemma map_fst_log (r : Registry) (steps : List (Files × Step)) :
    (r.log steps).map (·.1) = steps := by
  induction steps generalizing r with
  | nil => rfl
  | cons event rest ih => exact congrArg _ (ih _)

/-- What one step gives is what it adds to the names. -/
lemma names_perform (files : Files) (step : Step) (r : Registry) :
    (perform files step r).1.names =
      r.names ++ (Event.given? ((files, step), (perform files step r).2)).toList := by
  rcases perform_cases files step r with ⟨hsame, hn⟩ | ⟨name, schema, hn, -, hok, -, hadd⟩
  · have hnone : Event.given? ((files, step), (perform files step r).2) = none := by
      unfold Event.given?
      split
      · cases hname : step.name? with
        | none => rfl
        | some name => simp_all
      · rfl
    rw [hsame, hnone]
    simp
  · rw [hadd, names_add]
    simp [Event.given?, hok, hn]

lemma names_runEach (r : Registry) (steps : List (Files × Step)) :
    (r.runEach steps).1.names = r.names ++ (r.log steps).filterMap Event.given? := by
  induction steps generalizing r with
  | nil => simp [runEach, log]
  | cons event rest ih =>
    obtain ⟨files, step⟩ := event
    rw [runEach_cons, ih, names_perform, log_cons, List.filterMap_cons, List.append_assoc]
    cases Event.given? ((files, step), (perform files step r).2) <;> rfl

lemma nodup_names_runEach {r : Registry} (h : r.names.Nodup) (steps : List (Files × Step)) :
    (r.runEach steps).1.names.Nodup := by
  induction steps generalizing r with
  | nil => exact h
  | cons event rest ih =>
    obtain ⟨files, step⟩ := event
    rw [runEach_cons]
    refine ih ?_
    rcases perform_cases files step r with ⟨hsame, -⟩ | ⟨name, schema, -, -, -, hfree, hadd⟩
    · rwa [hsame]
    · rw [hadd, names_add]
      exact List.Nodup.append h (by simp) (by simpa using hfree)

/-- What is registered stays registered. -/
lemma mem_schemas_runEach {r : Registry} {s : String × Value} (h : s ∈ r.schemas)
    (steps : List (Files × Step)) : s ∈ (r.runEach steps).1.schemas := by
  induction steps generalizing r with
  | nil => exact h
  | cons event rest ih =>
    obtain ⟨files, step⟩ := event
    rw [runEach_cons]
    refine ih ?_
    rcases perform_cases files step r with ⟨hsame, -⟩ | ⟨name, schema, -, -, -, -, hadd⟩
    · rwa [hsame]
    · rw [hadd]
      exact List.mem_append_left _ h

/-- A step that gave a name gave it the schema that it has. -/
lemma mem_schemas_of_given {files : Files} {step : Step} {r : Registry} {name : String}
    (h : Event.given? ((files, step), (perform files step r).2) = some name) :
    ∃ schema, step.schema? files = some schema ∧
      (name, schema) ∈ (perform files step r).1.schemas := by
  obtain ⟨hok, hn⟩ : (perform files step r).2.result.isOk = true ∧ step.name? = some name := by
    simpa [Event.given?] using h
  rcases perform_cases files step r with ⟨-, hfails⟩ | ⟨other, schema, ho, hs, -, -, hadd⟩
  · cases (hfails name hn).symm.trans hok
  · obtain rfl := Option.some.inj (hn.symm.trans ho)
    exact ⟨schema, hs, by simp [hadd, add]⟩

/-- A name keeps the schema that a step gave it to the end of the run. -/
lemma mem_schemas_of_log {r : Registry} {steps : List (Files × Step)} {e : Event}
    (he : e ∈ r.log steps) {name : String} (hn : e.given? = some name) :
    ∃ schema, e.1.2.schema? e.1.1 = some schema ∧ (name, schema) ∈ (r.runEach steps).1.schemas := by
  induction steps generalizing r with
  | nil => cases he
  | cons event rest ih =>
    obtain ⟨files, step⟩ := event
    rw [log_cons, List.mem_cons] at he
    rw [runEach_cons]
    rcases he with rfl | he
    · obtain ⟨schema, hs, hm⟩ := mem_schemas_of_given hn
      exact ⟨schema, hs, mem_schemas_runEach hm rest⟩
    · exact ih he

/-- **What a registry holds after a run** of steps on an empty one. The names are those of the steps
that would give one and ended with an answer, in order and each once. Each of them has the schema of
its step, whatever the later steps were, and a value is validated against it as by itself; every
other name is unknown. A step that fails or only reads leaves the registry as it is. -/
theorem registry_of_run (steps : List (Files × Step)) :
    let last := (empty.runEach steps).1
    let given := (empty.log steps).filterMap Event.given?
    (empty.log steps).map Prod.fst = steps ∧ given.Nodup ∧
      (∀ files, perform files .list last = (last, pure (.names given))) ∧
      (∀ e ∈ empty.log steps, ∀ name, e.given? = some name →
        ∃ schema, e.1.2.schema? e.1.1 = some schema ∧
          (∀ files, (perform files (.get name) last).2.result = .ok (.schema schema)) ∧
          ∀ files value, (perform files (.validate name value) last).2.result =
            Answer.verdict <$> (JsonSchema.validate schema value .start).result) ∧
      (∀ name, name ∉ given → ∀ files,
        (perform files (.get name) last).2.result = .error (.nameUnknown name) ∧
          ∀ value, (perform files (.validate name value) last).2.result =
            .error (.nameUnknown name)) ∧
      ∀ files step, (perform files step last).2.result.isOk = false ∨ step.name? = none →
        (perform files step last).1 = last := by
  intro last given
  have hnames : last.names = given := names_runEach empty steps
  have hnodup : last.names.Nodup := nodup_names_runEach (r := empty) List.nodup_nil steps
  refine ⟨map_fst_log empty steps, hnames ▸ hnodup, ?_, ?_, ?_, fun files step => perform_of_idle⟩
  · intro files
    rw [← hnames]
    rfl
  · intro e he name hn
    obtain ⟨schema, hs, hm⟩ := mem_schemas_of_log he hn
    have hget : last.get name = .ok schema := get_of_mem hnodup hm
    refine ⟨schema, hs, fun files => ?_, fun files value => ?_⟩
    · rw [result_perform_get, hget]
      rfl
    · rw [result_perform_validate, result_validate hget]
  · intro name hname files
    have hget : last.get name = .error (.nameUnknown name) := get_of_not_mem (hnames ▸ hname)
    refine ⟨?_, fun value => ?_⟩
    · rw [result_perform_get, hget]
      rfl
    · rw [result_perform_validate, result_validate_unknown hget]
      rfl

/-- A file of two braces at first, and of one digit later on. -/
def busySteps : List (Files × Step) :=
  let braces : Files := fun _ => .ok [0x7b, 0x7d]
  let digit : Files := fun _ => .ok [0x31]
  let gone : Files := fun _ => .error .missing
  [(gone, .register "open" (.bool true)), (gone, .loadFile "node" "n.json"),
    (braces, .loadFile "node" "n.json"), (digit, .loadFile "count" "n.json"),
    (braces, .loadFile "open" "n.json"), (gone, .register "open" (.bool false)),
    (gone, .register "text" (.string "a")), (gone, .validate "lost" .null)]

lemma ofText_busyFile : FilePath.ofText "n.json" = ⟨"", ["n.json"]⟩ :=
  FilePath.ofText_of_name (by decide) (by decide)

lemma given_busySteps : (empty.log busySteps).filterMap Event.given? = ["open", "node"] := by
  simp only [busySteps, log, runEach, perform, loadFile, ofText_busyFile]
  rfl

/-- Two of eight steps give a name. No attempt to give one of them again, or to give one to what is
no schema, changes what they gave. -/
theorem registry_of_run_busy :
    let last := (empty.runEach busySteps).1
    let gone : Files := fun _ => .error .missing
    perform gone .list last = (last, pure (.names ["open", "node"])) ∧
      (perform gone (.get "open") last).2.result = .ok (.schema (.bool true)) ∧
      (perform gone (.get "node") last).2.result = .ok (.schema (.object [])) ∧
      (perform gone (.get "text") last).2.result = .error (.nameUnknown "text") ∧
      (perform gone (.get "count") last).2.result = .error (.nameUnknown "count") ∧
      (perform gone (.register "node" (.bool false)) last).1 = last := by
  intro last gone
  obtain ⟨-, -, hlist, hgiven, hunknown, hidle⟩ := registry_of_run busySteps
  rw [given_busySteps] at hlist hunknown
  refine ⟨hlist gone, ?_, ?_, (hunknown "text" (by decide) gone).1,
    (hunknown "count" (by decide) gone).1, ?_⟩
  · obtain ⟨schema, hs, hget, -⟩ := hgiven _ (.head _) "open" rfl
    cases hs
    exact hget gone
  · obtain ⟨schema, hs, hget, -⟩ := hgiven _ (.tail _ (.tail _ (.head _))) "node" (by
      simp only [Event.given?, loadFile, ofText_busyFile]
      rfl)
    rw [Step.schema?, ofText_busyFile] at hs
    cases hs
    exact hget gone
  · refine hidle gone _ (.inl ?_)
    simp only [busySteps, runEach, perform, loadFile, ofText_busyFile]
    rfl

end JsonSchema.Registry
