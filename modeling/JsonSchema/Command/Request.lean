import JsonSchema.Settings.Basic

/-!
What the words of a command line ask for.

An option is named in full behind two hyphens or by a letter behind one. Its value follows as the
next word, behind an equals sign, or right behind the letter. Of an option that is given twice the
last value counts. The words of a task are looked at only after the settings are known, so its
usage is judged on its own.
-/

namespace JsonSchema.Command

/-- Why words are carried out no further. -/
inductive Usage where
  /-- The words are wrong. -/
  | wrong
  /-- The words ask how the command is used. -/
  | help
  deriving DecidableEq, Repr

def Usage.status : Usage → Nat
  | wrong => 2
  | help => 0

/-! ### Options -/

inductive Flag where
  | help
  | logLevel
  | format
  | showResult
  deriving DecidableEq, Repr

structure OptionForm where
  flag : Flag
  name : String
  letter : Option Char
  takesValue : Bool
  deriving Repr

def helpOption : OptionForm := ⟨.help, "--help", none, false⟩

def commandOptions : List OptionForm := [⟨.logLevel, "--log-level", some 'l', true⟩, helpOption]

def validateOptions : List OptionForm := [
  ⟨.format, "--format", some 'f', true⟩, ⟨.showResult, "--show-result", some 'r', false⟩,
  helpOption]

def versionOptions : List OptionForm := [helpOption]

/-- Options with their values; one without a value has an empty one. -/
abbrev Given := List (Flag × String)

/-- The options of one word, and the option that takes the next word as its value. -/
structure WordOptions where
  given : Given
  open? : Option Flag
  deriving Repr

/-- A name in full, perhaps with a value behind an equals sign. There is none of that name if
nothing is returned. -/
def fullName? (forms : List OptionForm) (word : List Char) : Option (Except Usage WordOptions) :=
  let (name, behind) := word.span (· != '=')
  (forms.find? fun f => f.name == String.ofList name).map fun f =>
    match f.takesValue, behind with
    | true, '=' :: value => .ok ⟨[(f.flag, String.ofList value)], none⟩
    | true, _ => .ok ⟨[], some f.flag⟩
    | false, [] => .ok ⟨[(f.flag, "")], none⟩
    | false, _ => .error .wrong

/-- Letters of options in one word. The first one that takes a value takes the rest of the word,
unless nothing is left. -/
def letters (forms : List OptionForm) : List Char → Except Usage WordOptions
  | [] => .ok ⟨[], none⟩
  | c :: rest =>
    match forms.find? fun f => f.letter == some c with
    | none => .error .wrong
    | some f =>
      if f.takesValue then
        if rest.isEmpty then .ok ⟨[], some f.flag⟩
        else .ok ⟨[(f.flag, String.ofList rest)], none⟩
      else (letters forms rest).map fun r => { r with given := (f.flag, "") :: r.given }

def wordOptions (forms : List OptionForm) (word : List Char) : Except Usage WordOptions :=
  match fullName? forms word with
  | some r => r
  | none =>
    match word with
    | '-' :: '-' :: _ => .error .wrong
    | _ => letters forms word.tail

/-- A hyphen and something behind it. -/
def isOption (word : List Char) : Bool := word.head? == some '-' && 1 < word.length

structure Words where
  given : Given
  others : List String
  deriving Repr

/-- Tells options from other words. Two hyphens end the options, and so does the first other word
where options have to come first. -/
def readWords (forms : List OptionForm) (optionsFirst : Bool) :
    List String → Except Usage Words
  | [] => .ok ⟨[], []⟩
  | word :: rest =>
    if word == "--" then .ok ⟨[], rest⟩
    else if isOption word.toList then
      match wordOptions forms word.toList, rest with
      | .error u, _ => .error u
      | .ok ⟨given, none⟩, rest =>
        (readWords forms optionsFirst rest).map fun w => { w with given := given ++ w.given }
      | .ok ⟨_, some _⟩, [] => .error .wrong
      | .ok ⟨given, some flag⟩, value :: rest =>
        (readWords forms optionsFirst rest).map fun w =>
          { w with given := given ++ (flag, value) :: w.given }
    else if optionsFirst then .ok ⟨[], word :: rest⟩
    else (readWords forms optionsFirst rest).map fun w => { w with others := word :: w.others }

namespace Given

def has (g : Given) (flag : Flag) : Bool := g.any fun o => o.1 == flag

def read {α : Type} (g : Given) (flag : Flag) (ofName? : String → Option α) :
    Except Usage (Option α) :=
  match g.reverse.find? fun o => o.1 == flag with
  | none => .ok none
  | some o =>
    match ofName? o.2 with
    | some a => .ok (some a)
    | none => .error .wrong

end Given

/-! ### Requests -/

inductive Task where
  | version
  | validate (schema document : String) (format : Option OutputFormat) (showResult : Bool)
  deriving DecidableEq, Repr

structure Request where
  level : Option LogLevel
  task : Except Usage Task

def Given.refuseHelp (g : Given) : Except Usage Unit :=
  if g.has .help then .error .help else .ok ()

def versionTask (words : List String) : Except Usage Task := do
  let w ← readWords versionOptions false words
  w.given.refuseHelp
  match w.others with
  | [] => return .version
  | _ => throw .wrong

def validateTask (words : List String) : Except Usage Task := do
  let w ← readWords validateOptions false words
  w.given.refuseHelp
  let format ← w.given.read .format OutputFormat.ofName?
  match w.others with
  | [schema, document] => return .validate schema document format (w.given.has .showResult)
  | _ => throw .wrong

/-- The usage of words that name no task. Options are looked for in them once more. -/
def unknownTask (words : List String) : Usage :=
  match readWords commandOptions true words with
  | .ok w => if w.given.has .help then .help else .wrong
  | .error u => u

def Request.ofWords (words : List String) : Except Usage Request := do
  let w ← readWords commandOptions true words
  w.given.refuseHelp
  let level ← w.given.read .logLevel LogLevel.ofName?
  match w.others with
  | "validate" :: rest => return ⟨level, validateTask rest⟩
  | "version" :: rest => return ⟨level, versionTask rest⟩
  | [] => throw .wrong
  | others => throw (unknownTask others)

end JsonSchema.Command
