import JsonSchema.Document.Yaml.Node
import JsonSchema.Proofs.Loading.Lexing

/-!
How reading the nodes of a YAML document fails.

A reader finds the tokens malformed, or meets the one that says why the text breaks. Each reader is
made of others, so that is shown once for the way they are put together, and for the readers that
call each other by induction on the calls that are left.
-/

namespace JsonSchema.Yaml

/-- The tokens that are left are sound. -/
def NodeState.IsSound (s : NodeState) : Prop := ∀ t ∈ s.tokens, t.IsSound

namespace NodeReader

abbrev Passes {α : Type} (m : NodeReader α) : Prop :=
  JsonSchema.Passes NodeState.IsSound (· = .malformed) m

lemma passes_malformed {α : Type} : Passes (malformed : NodeReader α) := .throw rfl

/-! ### Tokens -/

/-- A token that says why the text breaks says that it is malformed. -/
lemma passes_peek? : Passes peek? := by
  intro s hs
  unfold peek?
  simp only [bind, StateT.bind, MonadState.get, getThe, MonadStateOf.get, StateT.get, pure,
    Except.pure, Except.bind]
  cases hnext : s.tokens.head? with
  | none => exact .ok hs
  | some t =>
    cases t with
    | broken d => exact .error (hs _ (List.mem_of_head? hnext) d rfl)
    | _ => exact .ok hs

lemma passes_advance : Passes advance :=
  fun _ hs => .ok fun t ht => hs t (List.mem_of_mem_tail ht)

lemma passes_accept (t : Token) : Passes (accept t) :=
  .bind passes_peek? fun _ => .ite (.bind passes_advance fun _ => .pure _) (.pure _)

lemma passes_expect (t : Token) : Passes (expect t) :=
  .bind (passes_accept t) fun _ => .ite passes_malformed (.pure _)

lemma passes_isBefore (ts : List Token) : Passes (isBefore ts) := by
  refine .bind passes_peek? fun next => ?_
  cases next with
  | none => exact .pure _
  | some t => exact .pure _

lemma passes_add (node : Node) : Passes (add node) := fun _ hs => .ok hs

/-! ### Properties of nodes -/

lemma passes_acceptAnchor : Passes acceptAnchor := by
  refine .bind passes_peek? fun next => ?_
  split
  · exact .bind passes_advance fun _ => .pure _
  · exact .pure _

lemma passes_acceptTag : Passes acceptTag := by
  refine .bind passes_peek? fun next => ?_
  split
  · exact .bind passes_advance fun _ => .pure _
  · exact .pure _

lemma passes_tagName (handle : Option String) (suffix : String) :
    Passes (tagName handle suffix) := by
  cases handle with
  | none => exact .pure _
  | some h =>
    refine .getBind fun s _ => ?_
    split
    · exact .pure _
    · exact passes_malformed

lemma passes_properties : Passes properties := by
  refine .bind passes_acceptAnchor fun first => .bind passes_acceptTag fun tag => ?_
  cases tag with
  | none => exact .ite (.bind passes_acceptAnchor fun _ => .pure _) (.pure _)
  | some t =>
    have hname (anchor : Option String) : Passes (do
        let name ← tagName t.1 t.2
        return (⟨anchor, some name⟩ : Properties)) :=
      .bind (passes_tagName t.1 t.2) fun _ => .pure _
    exact .ite (.bind passes_acceptAnchor hname) (hname first)

lemma passes_checkAnchor (anchor : Option String) : Passes (checkAnchor anchor) := by
  cases anchor with
  | none => exact .pure _
  | some name => exact .getBind fun s _ => .ite passes_malformed (.pure _)

lemma passes_setAnchor (anchor : Option String) (n : Nat) : Passes (setAnchor anchor n) := by
  cases anchor with
  | none => exact .pure _
  | some name => exact .update fun _ hs => hs

lemma passes_aliased (name : String) : Passes (aliased name) := by
  refine .getBind fun s _ => ?_
  split
  · exact .pure _
  · exact passes_malformed

/-! ### Nodes -/

/-- All readers of nodes pass, with some calls left. -/
structure PassesNodes (fuel : Nat) : Prop where
  node : ∀ setting, Passes (node fuel setting)
  content : ∀ setting p next, Passes (content fuel setting p next)
  nodeUnless : ∀ setting ends, Passes (nodeUnless fuel setting ends)
  valueUnless : ∀ setting ends, Passes (valueUnless fuel setting ends)
  blockItems : Passes (blockItems fuel)
  looseEntries : Passes (looseEntries fuel)
  blockEntries : Passes (blockEntries fuel)
  flowItems : ∀ first, Passes (flowItems fuel first)
  flowEntries : ∀ first, Passes (flowEntries fuel first)

lemma passesNodes_zero : PassesNodes 0 :=
  ⟨fun _ => passes_malformed, fun _ _ _ => passes_malformed, fun _ _ => passes_malformed,
    fun _ _ => passes_malformed, passes_malformed, passes_malformed, passes_malformed,
    fun _ => passes_malformed, fun _ => passes_malformed⟩

namespace PassesNodes

variable {fuel : Nat} (h : PassesNodes fuel)

include h

lemma succ_node (setting : Setting) : Passes (NodeReader.node (fuel + 1) setting) := by
  unfold NodeReader.node
  refine .bind passes_peek? fun next => ?_
  split
  · exact .bind passes_advance fun _ => passes_aliased _
  · exact .bind passes_properties fun p => .bind passes_peek? fun next =>
      .bind (passes_checkAnchor _) fun _ => .bind (fun _ hs => .ok hs) fun n =>
        .bind (passes_setAnchor _ n) fun _ => .bind (h.content _ _ _) fun _ =>
          .bind (.update fun _ hs => hs) fun _ => .pure _

lemma succ_content (setting : Setting) (p : Properties) (next : Option Token) :
    Passes (NodeReader.content (fuel + 1) setting p next) := by
  unfold NodeReader.content
  dsimp only
  split
  · exact .bind passes_advance fun _ => .pure _
  · exact .bind h.looseEntries fun _ => .pure _
  · exact .bind passes_advance fun _ => .bind (h.flowItems true) fun _ => .pure _
  · exact .bind passes_advance fun _ => .bind (h.flowEntries true) fun _ => .pure _
  · exact .bind passes_advance fun _ => .bind h.blockItems fun _ => .pure _
  · exact .bind passes_advance fun _ => .bind h.blockItems fun _ => .pure _
  · exact .bind passes_advance fun _ => .bind h.blockEntries fun _ => .pure _
  · exact .bind passes_advance fun _ => .bind h.blockEntries fun _ => .pure _
  · exact .ite (.pure _) passes_malformed

lemma succ_nodeUnless (setting : Setting) (ends : List Token) :
    Passes (NodeReader.nodeUnless (fuel + 1) setting ends) :=
  .bind (passes_isBefore ends) fun _ => .ite (passes_add _) (h.node setting)

lemma succ_valueUnless (setting : Setting) (ends : List Token) :
    Passes (NodeReader.valueUnless (fuel + 1) setting ends) :=
  .bind (passes_accept _) fun _ => .ite (h.nodeUnless setting ends) (passes_add _)

lemma succ_blockItems : Passes (NodeReader.blockItems (fuel + 1)) :=
  .bind (passes_accept _) fun _ =>
    .ite (.bind (h.nodeUnless _ _) fun _ => .bind h.blockItems fun _ => .pure _)
      (.bind (passes_expect _) fun _ => .pure _)

lemma succ_looseEntries : Passes (NodeReader.looseEntries (fuel + 1)) :=
  .bind (passes_accept _) fun _ =>
    .ite (.bind (h.nodeUnless _ _) fun _ => .bind h.looseEntries fun _ => .pure _) (.pure _)

/-- A key with its value, and what stands behind. -/
lemma passes_pair {α : Type} {setting : Setting} {keyEnds ends : List Token}
    {f : Nat → Nat → NodeReader α}
    (hf : ∀ k v, Passes (f k v)) : Passes (do
      let k ← NodeReader.nodeUnless fuel setting keyEnds
      let v ← NodeReader.valueUnless fuel setting ends
      f k v) :=
  .bind (h.nodeUnless _ _) fun k => .bind (h.valueUnless _ _) (hf k)

lemma succ_blockEntries : Passes (NodeReader.blockEntries (fuel + 1)) :=
  .bind (passes_accept _) fun _ =>
    .ite (h.passes_pair fun _ _ => .bind h.blockEntries fun _ => .pure _)
      (.bind (passes_expect _) fun _ => .pure _)

lemma succ_flowItems (first : Bool) : Passes (NodeReader.flowItems (fuel + 1) first) := by
  have hitem : Passes (do
      if ← accept .key then
        let k ← NodeReader.nodeUnless fuel .flow [.value, .flowEntry, .flowSequenceEnd]
        let v ← NodeReader.valueUnless fuel .flow [.flowEntry, .flowSequenceEnd]
        let n ← add (.mapping .map [(k, v)])
        return n :: (← NodeReader.flowItems fuel false)
      else if ← accept .flowSequenceEnd then return []
      else
        let n ← NodeReader.node fuel .flow
        return n :: (← NodeReader.flowItems fuel false)) :=
    .bind (passes_accept _) fun _ =>
      .ite (h.passes_pair fun _ _ => .bind (passes_add _) fun _ =>
          .bind (h.flowItems false) fun _ => .pure _)
        (.bind (passes_accept _) fun _ => .ite (.pure _)
          (.bind (h.node _) fun _ => .bind (h.flowItems false) fun _ => .pure _))
  exact .bind (passes_accept _) fun _ => .ite (.pure _)
    (.ite (.bind (passes_expect _) fun _ => hitem) hitem)

lemma succ_flowEntries (first : Bool) : Passes (NodeReader.flowEntries (fuel + 1) first) := by
  have hentry : Passes (do
      if ← accept .key then
        let k ← NodeReader.nodeUnless fuel .flow [.value, .flowEntry, .flowMappingEnd]
        let v ← NodeReader.valueUnless fuel .flow [.flowEntry, .flowMappingEnd]
        return (k, v) :: (← NodeReader.flowEntries fuel false)
      else if ← accept .flowMappingEnd then return []
      else
        let k ← NodeReader.node fuel .flow
        let v ← add .empty
        return (k, v) :: (← NodeReader.flowEntries fuel false)) :=
    .bind (passes_accept _) fun _ =>
      .ite (h.passes_pair fun _ _ => .bind (h.flowEntries false) fun _ => .pure _)
        (.bind (passes_accept _) fun _ => .ite (.pure _)
          (.bind (h.node _) fun _ => .bind (passes_add _) fun _ =>
            .bind (h.flowEntries false) fun _ => .pure _))
  exact .bind (passes_accept _) fun _ => .ite (.pure _)
    (.ite (.bind (passes_expect _) fun _ => hentry) hentry)

end PassesNodes

theorem passesNodes (fuel : Nat) : PassesNodes fuel := by
  induction fuel with
  | zero => exact passesNodes_zero
  | succ fuel ih =>
    exact ⟨ih.succ_node, ih.succ_content, ih.succ_nodeUnless, ih.succ_valueUnless,
      ih.succ_blockItems, ih.succ_looseEntries, ih.succ_blockEntries, ih.succ_flowItems,
      ih.succ_flowEntries⟩

/-! ### Documents -/

lemma passes_directives (fuel : Nat) (versioned : Bool) (handles : List (String × String)) :
    Passes (directives fuel versioned handles) := by
  induction fuel generalizing versioned handles with
  | zero => exact .pure _
  | succ fuel ih =>
    refine .bind passes_peek? fun next => ?_
    split
    · refine .bind passes_advance fun _ => ?_
      split
      · exact .ite passes_malformed (ih _ _)
      · exact .ite passes_malformed (ih _ _)
      · exact ih _ _
    · exact .pure _

lemma passes_explicitDocument (fuel : Nat) : Passes (explicitDocument fuel) :=
  .bind (passes_directives _ _ _) fun _ => .bind (passes_expect _) fun _ =>
    .bind (.update fun _ hs => hs) fun _ => .bind passes_peek? fun _ =>
      .ite (passes_add _) ((passesNodes fuel).node _)

lemma passes_skipDocumentEnds (fuel : Nat) : Passes (skipDocumentEnds fuel) := by
  induction fuel with
  | zero => exact .pure _
  | succ fuel ih => exact .bind (passes_accept _) fun _ => .ite ih (.pure _)

lemma passes_finish (fuel : Nat) : Passes (finish fuel) :=
  .bind (passes_skipDocumentEnds _) fun _ => .bind passes_peek? fun _ =>
    .ite (.bind (passes_directives _ _ _) fun _ => passes_malformed) (.pure _)

lemma passes_document : Passes document := by
  have hend (fuel : Nat) (root : Option Nat) : Passes (do
      finish fuel
      return root) := .bind (passes_finish _) fun _ => .pure _
  refine .getBind fun s _ => .bind passes_peek? fun next => ?_
  split
  · exact hend _ none
  · exact .bind (passes_explicitDocument _) fun _ => hend _ _
  · exact .bind (passes_explicitDocument _) fun _ => hend _ _
  · exact .bind ((passesNodes _).node _) fun _ => hend _ _

end NodeReader

/-- A text with ordinary escapes and versions has nodes or none, or is malformed. -/
theorem ends_graph {cs : List Char} (h : isOrdinary cs = true) :
    Ends (· = .malformed) (fun _ => True) (Graph.ofChars? cs) :=
  Ends.map (NodeReader.passes_document _ (Token.isSound_of_mem_scan h)) fun _ _ => trivial

end JsonSchema.Yaml
