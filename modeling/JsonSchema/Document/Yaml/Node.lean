import JsonSchema.Document.Yaml.Lexer
import JsonSchema.Document.Yaml.Tag

/-!
The nodes of a YAML document, read from its tokens.

Nodes have numbers, and a node names its parts by theirs. An alias gives the number of the node
that its anchor names, which may be a collection that is not closed yet: then the collection holds
itself. Every call takes a token or is the last one before a token is taken, so a small multiple of
their number bounds the calls.
-/

namespace JsonSchema.Yaml

inductive Node where
  | scalar (tag : Tag) (text : Text)
  | sequence (tag : Tag) (items : List Nat)
  | mapping (tag : Tag) (entries : List (Nat × Nat))
  deriving DecidableEq, Repr

namespace Node

def tag : Node → Tag
  | scalar t _ => t
  | sequence t _ => t
  | mapping t _ => t

/-- What stands where nothing is written. -/
def empty : Node := .scalar .null ""

instance : Inhabited Node := ⟨empty⟩

end Node

/-- Nodes under their numbers. Of two with one number the first counts. -/
abbrev Nodes := List (Nat × Node)

namespace Nodes

def node (ns : Nodes) (n : Nat) : Node := (ns.lookup n).getD .empty

def put (ns : Nodes) (n : Nat) (node : Node) : Nodes := (n, node) :: ns

def tag (ns : Nodes) (n : Nat) : Tag := (ns.node n).tag

def entries (ns : Nodes) (n : Nat) : List (Nat × Nat) :=
  match ns.node n with
  | .mapping _ entries => entries
  | _ => []

theorem lookup_put {ns : Nodes} {n m : Nat} {x : Node} :
    (ns.put n x).lookup m = if m = n then some x else ns.lookup m := by
  rw [put, List.lookup_cons]
  by_cases h : m = n
  · simp [h]
  · simp [h, beq_eq_false_iff_ne.2 h]

theorem node_of_lookup {ns : Nodes} {n : Nat} {x : Node} (h : ns.lookup n = some x) :
    ns.node n = x := by
  rw [node, h]
  rfl

end Nodes

/-- The nodes of a document, fewer than `count` in number, and the one that the others hang from. -/
structure Graph where
  nodes : Nodes
  count : Nat
  root : Nat
  deriving DecidableEq, Repr

/-- What is left of the tokens, and what is known about names. -/
structure NodeState where
  tokens : List Token
  /-- Expansions of tag handles. -/
  handles : List (String × String)
  anchors : List (String × Nat)
  nodes : Nodes
  /-- How many numbers are given away. -/
  count : Nat

abbrev NodeReader := StateT NodeState (Except Defect)

namespace NodeReader

def malformed {α : Type} : NodeReader α := throw .malformed

/-- The next token. A text that breaks here is read no further. -/
def peek? : NodeReader (Option Token) := do
  match (← get).tokens.head? with
  | some (.broken d) => throw d
  | t => return t

def advance : NodeReader Unit := modify fun s => { s with tokens := s.tokens.tail }

def accept (t : Token) : NodeReader Bool := do
  if (← peek?) == some t then
    advance
    return true
  else return false

def expect (t : Token) : NodeReader Unit := do
  if !(← accept t) then malformed

def isBefore (ts : List Token) : NodeReader Bool := do
  match ← peek? with
  | some t => return ts.contains t
  | none => return false

/-! ### Numbers -/

def reserve : NodeReader Nat :=
  modifyGet fun s => (s.count, { s with count := s.count + 1 })

def put (n : Nat) (node : Node) : NodeReader Unit :=
  modify fun s => { s with nodes := s.nodes.put n node }

def add (node : Node) : NodeReader Nat := do
  let n ← reserve
  put n node
  return n

/-! ### Properties of nodes -/

def acceptAnchor : NodeReader (Option String) := do
  match ← peek? with
  | some (.anchor name) =>
    advance
    return some name
  | _ => return none

def acceptTag : NodeReader (Option (Option String × String)) := do
  match ← peek? with
  | some (.tag handle suffix) =>
    advance
    return some (handle, suffix)
  | _ => return none

/-- The name of a tag: its suffix behind the expansion of its handle. -/
def tagName (handle : Option String) (suffix : String) : NodeReader String := do
  match handle with
  | none => return suffix
  | some h =>
    match (← get).handles.find? fun e => e.1 == h with
    | some e => return e.2 ++ suffix
    | none => malformed

structure Properties where
  anchor : Option String
  tag : Option String

def properties : NodeReader Properties := do
  let first ← acceptAnchor
  let tag ← acceptTag
  let anchor ← if first.isNone && tag.isSome then acceptAnchor else pure first
  let tag ← match tag with
    | some (handle, suffix) => pure (some (← tagName handle suffix))
    | none => pure none
  return ⟨anchor, tag⟩

def collectionTag (given : Option String) (usual : Tag) : Tag :=
  match given with
  | none | some "!" => usual
  | some name => .ofName name

/-- The tag of a scalar: one without a tag goes by its form if it is plain. -/
def scalarTag (given : Option String) (text : Text) (isPlain : Bool) : Tag :=
  match given with
  | none => if isPlain then .ofPlain text.chars else .str
  | some "!" => .ofPlain text.chars
  | some name => .ofName name

/-! ### Anchors -/

/-- An anchor may be set once. -/
def checkAnchor (anchor : Option String) : NodeReader Unit := do
  match anchor with
  | none => return ()
  | some name => if (← get).anchors.any (·.1 == name) then malformed

def setAnchor (anchor : Option String) (n : Nat) : NodeReader Unit := do
  match anchor with
  | none => return ()
  | some name => modify fun s => { s with anchors := (name, n) :: s.anchors }

def aliased (name : String) : NodeReader Nat := do
  match (← get).anchors.find? fun a => a.1 == name with
  | some a => return a.2
  | none => malformed

/-! ### Nodes -/

/-- Where a node stands, which decides what may begin there. -/
inductive Setting where
  | flow
  | block
  /-- As a key or value of a block mapping, whose sequences need not be indented. -/
  | member
  deriving DecidableEq

mutual

def node : (fuel : Nat) → Setting → NodeReader Nat
  | 0, _ => malformed
  | fuel + 1, setting => do
    match ← peek? with
    | some (.alias name) =>
      advance
      aliased name
    | _ =>
      let p ← properties
      let next ← peek?
      checkAnchor p.anchor
      let n ← reserve
      setAnchor p.anchor n
      put n (← content fuel setting p next)
      return n

/-- What a node that is no alias holds. -/
def content : (fuel : Nat) → Setting → Properties → Option Token → NodeReader Node
  | 0, _, _, _ => malformed
  | fuel + 1, setting, p, next => do
    let sequence := Node.sequence (collectionTag p.tag .seq)
    let mapping := Node.mapping (collectionTag p.tag .map)
    match next, setting with
    | some (.scalar text isPlain), _ =>
      advance
      return .scalar (scalarTag p.tag text isPlain) text
    | some .blockEntry, .member => return sequence (← looseEntries fuel)
    | some .flowSequenceStart, _ =>
      advance
      return sequence (← flowItems fuel true)
    | some .flowMappingStart, _ =>
      advance
      return mapping (← flowEntries fuel true)
    | some .blockSequenceStart, .block | some .blockSequenceStart, .member =>
      advance
      return sequence (← blockItems fuel)
    | some .blockMappingStart, .block | some .blockMappingStart, .member =>
      advance
      return mapping (← blockEntries fuel)
    | _, _ =>
      if p.anchor.isSome || p.tag.isSome then return .scalar (scalarTag p.tag "" p.tag.isNone) ""
      else malformed

/-- A node, or nothing before one of some tokens. -/
def nodeUnless : (fuel : Nat) → Setting → List Token → NodeReader Nat
  | 0, _, _ => malformed
  | fuel + 1, setting, ends => do
    if ← isBefore ends then add .empty else node fuel setting

def valueUnless : (fuel : Nat) → Setting → List Token → NodeReader Nat
  | 0, _, _ => malformed
  | fuel + 1, setting, ends => do
    if ← accept .value then nodeUnless fuel setting ends else add .empty

/-- The entries of an indented sequence, up to the end of the block. -/
def blockItems : (fuel : Nat) → NodeReader (List Nat)
  | 0 => malformed
  | fuel + 1 => do
    if ← accept .blockEntry then
      let n ← nodeUnless fuel .block [.blockEntry, .blockEnd]
      return n :: (← blockItems fuel)
    else
      expect .blockEnd
      return []

/-- The entries of a sequence at the indentation of the mapping that it stands in. -/
def looseEntries : (fuel : Nat) → NodeReader (List Nat)
  | 0 => malformed
  | fuel + 1 => do
    if ← accept .blockEntry then
      let n ← nodeUnless fuel .block [.blockEntry, .key, .value, .blockEnd]
      return n :: (← looseEntries fuel)
    else return []

def blockEntries : (fuel : Nat) → NodeReader (List (Nat × Nat))
  | 0 => malformed
  | fuel + 1 => do
    if ← accept .key then
      let k ← nodeUnless fuel .member [.key, .value, .blockEnd]
      let v ← valueUnless fuel .member [.key, .value, .blockEnd]
      return (k, v) :: (← blockEntries fuel)
    else
      expect .blockEnd
      return []

/-- The items of a flow sequence. A key makes a mapping of one entry. -/
def flowItems : (fuel : Nat) → (first : Bool) → NodeReader (List Nat)
  | 0, _ => malformed
  | fuel + 1, first => do
    if ← accept .flowSequenceEnd then return []
    else
      if !first then expect .flowEntry
      if ← accept .key then
        let k ← nodeUnless fuel .flow [.value, .flowEntry, .flowSequenceEnd]
        let v ← valueUnless fuel .flow [.flowEntry, .flowSequenceEnd]
        let n ← add (.mapping .map [(k, v)])
        return n :: (← flowItems fuel false)
      else if ← accept .flowSequenceEnd then return []
      else
        let n ← node fuel .flow
        return n :: (← flowItems fuel false)

def flowEntries : (fuel : Nat) → (first : Bool) → NodeReader (List (Nat × Nat))
  | 0, _ => malformed
  | fuel + 1, first => do
    if ← accept .flowMappingEnd then return []
    else
      if !first then expect .flowEntry
      if ← accept .key then
        let k ← nodeUnless fuel .flow [.value, .flowEntry, .flowMappingEnd]
        let v ← valueUnless fuel .flow [.flowEntry, .flowMappingEnd]
        return (k, v) :: (← flowEntries fuel false)
      else if ← accept .flowMappingEnd then return []
      else
        let k ← node fuel .flow
        let v ← add .empty
        return (k, v) :: (← flowEntries fuel false)

end

/-! ### Documents -/

def usualHandles : List (String × String) := [("!", "!"), ("!!", Tag.home)]

/-- Directives before a document: the version may be given once, each handle once. -/
def directives : (fuel : Nat) → (versioned : Bool) → List (String × String) →
    NodeReader (List (String × String))
  | 0, _, handles => return handles
  | fuel + 1, versioned, handles => do
    match ← peek? with
    | some (.directive d) =>
      advance
      match d with
      | .version major =>
        if versioned || major != 1 then malformed else directives fuel true handles
      | .tagPrefix handle expansion =>
        if handles.any (·.1 == handle) then malformed
        else directives fuel versioned (handles ++ [(handle, expansion)])
      | .other => directives fuel versioned handles
    | _ => return handles

def isDocumentBound : Option Token → Bool
  | none | some .documentStart | some .documentEnd | some (.directive _) => true
  | _ => false

/-- The content of a document; one without any is empty. -/
def explicitDocument (fuel : Nat) : NodeReader Nat := do
  let handles ← directives fuel false []
  expect .documentStart
  let usual := usualHandles.filter fun u => !handles.any (·.1 == u.1)
  modify fun s => { s with handles := handles ++ usual }
  if isDocumentBound (← peek?) then add .empty else node fuel .block

def skipDocumentEnds : (fuel : Nat) → NodeReader Unit
  | 0 => return ()
  | fuel + 1 => do
    if ← accept .documentEnd then skipDocumentEnds fuel

/-- Behind the document nothing may follow. Of another one the directives are still looked at. -/
def finish (fuel : Nat) : NodeReader Unit := do
  skipDocumentEnds fuel
  if (← peek?).isSome then
    let _ ← directives fuel false []
    malformed

/-- The root of the only document of a text; a text may have none. -/
def document : NodeReader (Option Nat) := do
  let fuel := 4 * (← get).tokens.length + 8
  let root ← match ← peek? with
    | none => pure none
    | some .documentStart | some (.directive _) => do pure (some (← explicitDocument fuel))
    | _ => do pure (some (← node fuel .block))
  finish fuel
  return root

end NodeReader

def Graph.ofChars? (cs : List Char) : Except Defect (Option Graph) :=
  (NodeReader.document ⟨Token.scan cs, NodeReader.usualHandles, [], [], 0⟩).map fun r =>
    r.1.map fun root => ⟨r.2.nodes, r.2.count, root⟩

end JsonSchema.Yaml
