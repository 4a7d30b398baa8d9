import JsonSchema.Document.Yaml.Node
import JsonSchema.Number.Reading
import JsonSchema.Text.Base64
import JsonSchema.Value.Traits

/-!
The values that YAML nodes stand for.

The collections of a document are filled one after another, in the order in which they are met, and
the first defect counts. Before a mapping is filled, the entries of the mappings that it merges are
laid out before its own. The values are taken of the nodes when all are filled; entries of one key
replace each other in place. A collection that holds itself has no finite value, and the document is
kept as it is.
-/

namespace JsonSchema.Yaml

inductive BuildDefect where
  /-- The node does not have the form that its tag asks for. -/
  | malformed
  /-- A text is no number, or no date that there is. -/
  | impossible
  /-- An integer has too many digits. -/
  | tooManyDigits
  /-- A number has no digits at all. -/
  | noDigits
  /-- A word stands for no boolean. -/
  | noBoolean
  /-- A text does not have the form of a date. -/
  | noDate
  /-- A date is looked for in the entries of a mapping. -/
  | notAText
  /-- A number is beyond all doubles. -/
  | tooLarge
  /-- The text of a mapping is looked for in the mapping itself. -/
  | endless
  deriving DecidableEq, Repr

abbrev Build (α : Type) := Except BuildDefect α

/-! ### Numbers -/

def integerIn (base : Nat) (ds : List Char) : Build Int :=
  match readInteger base ds with
  | .ok n => .ok n
  | .error .notANumber => .error .impossible
  | .error .tooManyDigits => .error .tooManyDigits

/-- An integer in base ten, or in the base that a zero announces, or in base sixty. -/
def magnitudeOf (body : List Char) : Build Int :=
  match body with
  | [] => .error .noDigits
  | ['0'] => .ok 0
  | '0' :: 'b' :: ds => integerIn 2 ds
  | '0' :: 'x' :: ds => integerIn 16 ds
  | '0' :: _ => integerIn 8 body
  | _ =>
    if body.contains ':' then do
      let parts ← (body.splitOn ':').mapM (integerIn 10)
      return parts.foldl (fun n part => n * 60 + part) 0
    else integerIn 10 body

def integerOf (text : List Char) : Build Value :=
  let cs := text.filter (· != '_')
  (magnitudeOf (Form.withoutSign cs)).map fun n =>
    .int (if cs.head? == some '-' then -n else n)

def negate : Double → Double
  | .nan => .nan
  | .infinite negative => .infinite !negative
  | .finite negative e f => .finite (!negative) e f

/-- A number in base sixty, added up from its last part on. The weight of a part may be beyond all
doubles. -/
def sumOfSixtieths (parts : List Double) : Option Double :=
  let add (acc : Double × Nat) (x : Double) : Option (Double × Nat) := do
    let weight ← Double.ofInt? acc.2
    return (acc.1.add (x.mul weight), acc.2 * 60)
  (parts.reverse.foldlM add (.zero, 1)).map (·.1)

def floatOf (text : List Char) : Build Value :=
  let cs := (text.filter (· != '_')).map Char.toLower
  let body := Form.withoutSign cs
  let signed (x : Double) : Value :=
    .double (if cs.head? == some '-' then negate x else x)
  if cs.isEmpty then .error .noDigits
  else match String.ofList body with
    | ".inf" => .ok (signed (.infinite false))
    | ".nan" => .ok (.double .nan)
    | _ =>
      if body.contains ':' then
        match (body.splitOn ':').mapM readDouble? with
        | none => .error .impossible
        | some parts =>
          match sumOfSixtieths parts with
          | some x => .ok (signed x)
          | none => .error .tooLarge
      else match readDouble? body with
        | some x => .ok (signed x)
        | none => .error .impossible

/-! ### Dates and other scalars -/

def natOf (ds : List Char) : Nat := Json.digitsValue ds

/-- Digits behind a point, as millionths. -/
def microseconds (ds : List Char) : Nat :=
  let six := ds.take 6
  natOf (six ++ List.replicate (6 - six.length) '0')

def zoneOffset (zone : Option (Option (Bool × List Char × List Char))) : Option Int :=
  zone.map fun z =>
    match z with
    | none => 0
    | some (negative, hour, minute) =>
      let seconds : Int := natOf hour * 3600 + natOf minute * 60
      if negative then -seconds else seconds

def timestampOf (text : List Char) : Build Value :=
  match Form.timestamp? (Form.visible text) with
  | none => .error .noDate
  | some t =>
    let date : Date := ⟨natOf t.year, natOf t.month, natOf t.day⟩
    match t.time with
    | none => if date.isPossible then .ok (.date date) else .error .impossible
    | some time =>
      let at_ : DateTime := ⟨date, natOf time.hour, natOf time.minute, natOf time.second,
        microseconds time.fraction, zoneOffset time.zone⟩
      if at_.isPossible then .ok (.datetime at_) else .error .impossible

def boolOf (text : List Char) : Build Value :=
  match String.ofList (text.map Char.toLower) with
  | "yes" | "true" | "on" => .ok (.bool true)
  | "no" | "false" | "off" => .ok (.bool false)
  | _ => .error .noBoolean

def bytesOf (text : List Char) : Build Value :=
  if text.all (·.toNat < 128) then
    match Text.Base64.decode? text with
    | some bs => .ok (.bytes bs)
    | none => .error .malformed
  else .error .malformed

def scalarOf (tag : Tag) (text : Text) : Build Value :=
  match tag with
  | .null => .ok .null
  | .bool => boolOf text.chars
  | .int => integerOf text.chars
  | .float => floatOf text.chars
  | .binary => bytesOf text.chars
  | .timestamp => timestampOf text.chars
  | .str => .ok (.string text)
  | _ => .error .malformed

/-! ### Scalars and collections -/

def isScalarTag : Tag → Bool
  | .null | .bool | .int | .float | .binary | .timestamp | .str => true
  | _ => false

def isCollectionTag : Tag → Bool
  | .seq | .map | .set | .omap | .pairs => true
  | _ => false

namespace Nodes

/-- The text of a node: a scalar, or the text under the key for the value of a mapping. More steps
than there are nodes go round in circles. -/
def textOf (ns : Nodes) : (fuel : Nat) → Nat → Build Text
  | 0, _ => .error .endless
  | fuel + 1, n =>
    match ns.node n with
    | .scalar _ text => .ok text
    | .sequence .. => .error .malformed
    | .mapping _ entries =>
      match entries.find? fun e => ns.tag e.1 == .value with
      | some e => ns.textOf fuel e.2
      | none => .error .malformed

def isMapping (ns : Nodes) (n : Nat) : Bool :=
  match ns.node n with
  | .mapping .. => true
  | _ => false

def scalar (ns : Nodes) (count n : Nat) : Build Value :=
  if isScalarTag (ns.tag n) then do
    let text ← ns.textOf (count + 1) n
    if ns.tag n == .timestamp && ns.isMapping n then throw .notAText
    scalarOf (ns.tag n) text
  else .error .malformed

/-! ### Merged mappings -/

def putEntries (ns : Nodes) (n : Nat) (entries : List (Nat × Nat)) : Nodes :=
  ns.put n (.mapping (ns.tag n) entries)

def isMerge (ns : Nodes) (e : Nat × Nat) : Bool := ns.tag e.1 == .merge

/-- A key for the value of a mapping is a text among other keys. -/
def plainKey (ns : Nodes) (n : Nat) : Nodes :=
  if ns.tag n == .value then
    ns.put n <| match ns.node n with
      | .scalar _ text => .scalar .str text
      | .sequence _ items => .sequence .str items
      | .mapping _ entries => .mapping .str entries
  else ns

/-- What a node brings to a mapping that merges it, when its own entries are laid out: the entries
of a mapping, or those of the mappings in a sequence, later ones first. -/
def merged (layOut : Nodes → Nat → Build Nodes) (ns : Nodes) (source : Nat) :
    Build (Nodes × List (Nat × Nat)) :=
  match ns.node source with
  | .mapping .. => do
    let ns ← layOut ns source
    return (ns, ns.entries source)
  | .sequence _ items =>
    items.foldlM (fun done item => do
      if done.1.isMapping item then
        let ns ← layOut done.1 item
        return (ns, ns.entries item ++ done.2)
      else throw .malformed) (ns, [])
  | .scalar .. => throw .malformed

/-- Lays out what a mapping merges, with `merges` entries left that merge anything. The entry is
taken out first, so that a mapping may merge itself. -/
def layOut : (merges : Nat) → Nodes → Nat → Build Nodes
  | 0, ns, _ => .ok ns
  | merges + 1, ns, n =>
    match (ns.entries n).span (!ns.isMerge ·) with
    | (own, []) => .ok ((own.map (·.1)).foldl plainKey ns)
    | (own, (_, source) :: rest) => do
      let (ns, entries) ← merged (layOut merges) (ns.putEntries n (own ++ rest)) source
      let ns ← layOut merges ns n
      return ns.putEntries n (entries ++ ns.entries n)

/-- How many entries merge anything. -/
def merges (ns : Nodes) : Nat :=
  (ns.flatMap fun p => match p.2 with
    | .mapping _ entries => entries.filter ns.isMerge
    | _ => []).length

end Nodes

/-! ### Filling -/

structure Filling where
  nodes : Nodes
  count : Nat
  /-- The collections that were met. -/
  met : List Nat
  /-- Those of them that are still to be filled. -/
  waiting : List Nat

abbrev Filler := StateT Filling (Except BuildDefect)

namespace Filler

/-- Meets a node, and tells whether it is a scalar. -/
def meet (n : Nat) : Filler Bool := do
  let s ← get
  if isCollectionTag (s.nodes.tag n) then
    if !s.met.contains n then set { s with met := n :: s.met, waiting := s.waiting ++ [n] }
    return false
  else
    let _ ← s.nodes.scalar s.count n
    return true

def meetPair (n : Nat) : Filler Unit := do
  match (← get).nodes.node n with
  | .mapping _ [(k, v)] =>
    let _ ← meet k
    let _ ← meet v
  | _ => throw .malformed

/-- Meets a key, which has to be a scalar, and its value. -/
def meetEntry (e : Nat × Nat) : Filler Unit := do
  if !(← meet e.1) then throw .malformed
  let _ ← meet e.2

def fill (n : Nat) : Filler Unit := do
  let s ← get
  match s.nodes.node n with
  | .sequence .seq items => items.forM fun i => do let _ ← meet i
  | .sequence .omap items | .sequence .pairs items => items.forM meetPair
  | .mapping .map _ | .mapping .set _ =>
    let ns ← s.nodes.layOut (s.nodes.merges + 1) n
    set { s with nodes := ns }
    (ns.entries n).forM meetEntry
  | _ => throw .malformed

/-- Fills what is waiting, with `fuel` collections left that may be met. -/
def fillAll : (fuel : Nat) → Filler Unit
  | 0 => return ()
  | fuel + 1 => do
    match (← get).waiting with
    | [] => return ()
    | n :: rest =>
      modify fun s => { s with waiting := rest }
      fill n
      fillAll fuel

end Filler

def Graph.fill (g : Graph) : Build Nodes := do
  let (_, s) ← (do let _ ← Filler.meet g.root; Filler.fillAll (g.count + 1))
    ⟨g.nodes, g.count, [], []⟩
  return s.nodes

/-! ### Values -/

def distinct (vs : List Value) : List Value :=
  vs.foldl (fun done v => if done.any fun w => Value.same w v then done else done ++ [v]) []

/-- Puts something under a key: in place of what is there, or as a last entry. -/
def putKey {α : Type} : List (Value × α) → Value × α → List (Value × α)
  | [], e => [e]
  | (k, a) :: rest, e => if Value.same k e.1 then (k, e.2) :: rest else (k, a) :: putKey rest e

namespace Nodes

/-- The value of a key, which is a scalar. -/
def key? (ns : Nodes) (count : Nat) (e : Nat × Nat) : Option (Value × Nat) :=
  (ns.scalar count e.1).toOption.map fun k => (k, e.2)

/-- The value of a filled node. Collections that nest deeper than there are nodes hold
themselves. -/
def value? (ns : Nodes) (count : Nat) : (fuel : Nat) → Nat → Option Value
  | 0, _ => none
  | fuel + 1, n =>
    let pair (i : Nat) : Option Value :=
      match ns.node i with
      | .mapping _ [(k, v)] => do
        return .array .tuple [← ns.value? count fuel k, ← ns.value? count fuel v]
      | _ => none
    match ns.node n with
    | .sequence .seq items => do return .list (← items.mapM (ns.value? count fuel))
    | .sequence .omap items | .sequence .pairs items => do return .list (← items.mapM pair)
    | .mapping .map entries => do
      let keyed := (← entries.mapM (ns.key? count)).foldl putKey []
      return .object (← keyed.mapM fun e => do return (e.1, ← ns.value? count fuel e.2))
    | .mapping .set entries => do
      return .set (distinct ((← entries.mapM (ns.key? count)).map (·.1)))
    | _ => (ns.scalar count n).toOption

end Nodes

/-- What a text stands for: a value, or nodes of which one holds itself. -/
inductive Reading where
  | value (v : Value)
  | cyclic (filled : Nodes) (root : Nat)

def Graph.reading (g : Graph) : Build Reading := do
  let ns ← g.fill
  match ns.value? g.count (g.count + 1) g.root with
  | some v => return .value v
  | none => return .cyclic ns g.root

/-! ### Texts -/

inductive Error where
  | text (d : Defect)
  | build (d : BuildDefect)
  deriving DecidableEq, Repr

/-- What a text stands for; a text without a document stands for null. -/
def load (cs : List Char) : Except Error Reading := do
  match ← (Graph.ofChars? cs).mapError .text with
  | none => return .value .null
  | some g => g.reading.mapError .build

end JsonSchema.Yaml
