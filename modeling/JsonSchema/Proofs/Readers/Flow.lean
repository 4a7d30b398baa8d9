import JsonSchema.Document.Yaml.Node
import Mathlib.Tactic.Lemma

/-!
Documents in flow style: quoted and plain scalars in brackets, under quoted keys.

`Flow` stands between the tokens of such a document and its nodes. Main statement: from the tokens
of a document the reader of nodes takes these tokens and no more, and puts down its nodes.
-/

namespace JsonSchema

namespace Yaml

inductive Flow where
  | scalar (text : Text) (isPlain : Bool)
  | sequence (items : List Flow)
  | mapping (entries : List (Text × Flow))

namespace Flow

/-- What stands before an item, unless it is the first. -/
def separator (first : Bool) : List Token := if first then [] else [.flowEntry]

mutual

def tokens : Flow → List Token
  | scalar text isPlain => [.scalar text isPlain]
  | sequence items => .flowSequenceStart :: itemTokens true items
  | mapping entries => .flowMappingStart :: entryTokens true entries

/-- The items up to the closing bracket. -/
def itemTokens (first : Bool) : List Flow → List Token
  | [] => [.flowSequenceEnd]
  | t :: rest => separator first ++ (t.tokens ++ itemTokens false rest)

/-- The entries up to the closing brace. -/
def entryTokens (first : Bool) : List (Text × Flow) → List Token
  | [] => [.flowMappingEnd]
  | (key, t) :: rest => separator first ++
      .key :: .scalar key false :: .value :: (t.tokens ++ entryTokens false rest)

end

lemma itemTokens_false_cons (t : Flow) (rest : List Flow) :
    itemTokens false (t :: rest) = .flowEntry :: itemTokens true (t :: rest) := by
  simp [itemTokens, separator]

lemma entryTokens_false_cons (e : Text × Flow) (rest : List (Text × Flow)) :
    entryTokens false (e :: rest) = .flowEntry :: entryTokens true (e :: rest) := by
  simp [entryTokens, separator]

mutual

/-- A document stands under a number among nodes. -/
def StandsIn (ns : Nodes) (n : Nat) : Flow → Prop
  | scalar text isPlain =>
    ns.lookup n = some (.scalar (NodeReader.scalarTag none text isPlain) text)
  | sequence items => ∃ is, ns.lookup n = some (.sequence .seq is) ∧ ItemsStandIn ns is items
  | mapping entries => ∃ es, ns.lookup n = some (.mapping .map es) ∧ EntriesStandIn ns es entries

def ItemsStandIn (ns : Nodes) (is : List Nat) : List Flow → Prop
  | [] => is = []
  | t :: rest => ∃ i js, is = i :: js ∧ t.StandsIn ns i ∧ ItemsStandIn ns js rest

def EntriesStandIn (ns : Nodes) (es : List (Nat × Nat)) : List (Text × Flow) → Prop
  | [] => es = []
  | (key, t) :: rest => ∃ k v fs, es = (k, v) :: fs ∧ ns.lookup k = some (.scalar .str key) ∧
      t.StandsIn ns v ∧ EntriesStandIn ns fs rest

end

mutual

/-- How deep collections nest. -/
def height : Flow → Nat
  | scalar .. => 1
  | sequence items => itemsHeight items + 1
  | mapping entries => entriesHeight entries + 1

def itemsHeight : List Flow → Nat
  | [] => 0
  | t :: rest => max t.height (itemsHeight rest)

def entriesHeight : List (Text × Flow) → Nat
  | [] => 0
  | (_, t) :: rest => max t.height (entriesHeight rest)

end

end Flow

/-! ### Numbers -/

namespace Nodes

variable {ns : Nodes} {n : Nat} {x : Node}

/-- Nothing under a number is lost. -/
def Extends (ns' ns : Nodes) : Prop := ∀ n x, ns.lookup n = some x → ns'.lookup n = some x

lemma Extends.trans {ns' ns'' : Nodes} (h : ns''.Extends ns') (h' : ns'.Extends ns) :
    ns''.Extends ns := fun n x hx => h n x (h' n x hx)

lemma extends_put (h : ns.lookup n = none) : (ns.put n x).Extends ns := by
  intro m y hy
  rw [lookup_put, if_neg]
  · exact hy
  · rintro rfl
    rw [h] at hy
    cases hy

end Nodes

namespace Flow

variable {ns ns' : Nodes}

mutual

theorem StandsIn.mono (hext : ns'.Extends ns) :
    {n : Nat} → (t : Flow) → t.StandsIn ns n → t.StandsIn ns' n
  | _, scalar _ _, h => by
    rw [StandsIn] at h ⊢
    exact hext _ _ h
  | _, sequence items, h => by
    rw [StandsIn] at h ⊢
    obtain ⟨is, hn, his⟩ := h
    exact ⟨is, hext _ _ hn, ItemsStandIn.mono hext items his⟩
  | _, mapping entries, h => by
    rw [StandsIn] at h ⊢
    obtain ⟨es, hn, hes⟩ := h
    exact ⟨es, hext _ _ hn, EntriesStandIn.mono hext entries hes⟩

theorem ItemsStandIn.mono (hext : ns'.Extends ns) :
    {is : List Nat} → (items : List Flow) → ItemsStandIn ns is items → ItemsStandIn ns' is items
  | _, [], h => by rwa [ItemsStandIn] at h ⊢
  | _, t :: rest, h => by
    rw [ItemsStandIn] at h ⊢
    obtain ⟨i, js, rfl, ht, hrest⟩ := h
    exact ⟨i, js, rfl, StandsIn.mono hext t ht, ItemsStandIn.mono hext rest hrest⟩

theorem EntriesStandIn.mono (hext : ns'.Extends ns) :
    {es : List (Nat × Nat)} → (entries : List (Text × Flow)) →
      EntriesStandIn ns es entries → EntriesStandIn ns' es entries
  | _, [], h => by rwa [EntriesStandIn] at h ⊢
  | _, (key, t) :: rest, h => by
    rw [EntriesStandIn] at h ⊢
    obtain ⟨k, v, fs, rfl, hkey, ht, hrest⟩ := h
    exact ⟨k, v, fs, rfl, hext _ _ hkey, StandsIn.mono hext t ht,
      EntriesStandIn.mono hext rest hrest⟩

end

end Flow

/-! ### States of the reader -/

/-- No node has a number that is not given away. -/
def NodeState.IsFresh (s : NodeState) : Prop := ∀ m, s.count ≤ m → s.nodes.lookup m = none

/-- From one state to another nodes were put down under numbers of their own, at least some. -/
structure NodeState.GrowsTo (s s' : NodeState) (least : Nat) : Prop where
  count : s.count + least ≤ s'.count
  old : ∀ m, m < s.count → s'.nodes.lookup m = s.nodes.lookup m
  fresh : s.IsFresh → s'.IsFresh

namespace NodeState

variable {s s' s'' : NodeState} {a b : Nat}

lemma GrowsTo.refl (s : NodeState) : s.GrowsTo s 0 := ⟨Nat.le_refl _, fun _ _ => rfl, id⟩

lemma GrowsTo.trans (h : s.GrowsTo s' a) (h' : s'.GrowsTo s'' b) :
    s.GrowsTo s'' (max a b) where
  count := by
    have := h.count
    have := h'.count
    omega
  old m hm := (h'.old m (by have := h.count; omega)).trans (h.old m hm)
  fresh hs := h'.fresh (h.fresh hs)

lemma GrowsTo.mono (h : s.GrowsTo s' a) (hb : b ≤ a) : s.GrowsTo s' b :=
  ⟨by have := h.count; omega, h.old, h.fresh⟩

lemma GrowsTo.extends (h : s.GrowsTo s' a) (hs : s.IsFresh) : s'.nodes.Extends s.nodes := by
  intro m x hx
  rw [h.old m, hx]
  refine Nat.lt_of_not_le fun hm => ?_
  rw [hs m hm] at hx
  cases hx

def add (s : NodeState) (node : Node) : NodeState :=
  { s with nodes := s.nodes.put s.count node, count := s.count + 1 }

lemma growsTo_add (s : NodeState) (node : Node) : s.GrowsTo (s.add node) 1 where
  count := Nat.le_refl _
  old m hm := by rw [add, Nodes.lookup_put, if_neg (by omega)]
  fresh hs m hm := by
    change s.count + 1 ≤ m at hm
    rw [add, Nodes.lookup_put, if_neg (by omega)]
    exact hs m (by omega)

def put (s : NodeState) (n : Nat) (node : Node) : NodeState :=
  { s with nodes := s.nodes.put n node }

def reserve (s : NodeState) : NodeState := { s with count := s.count + 1 }

lemma IsFresh.reserve (hs : s.IsFresh) : s.reserve.IsFresh :=
  fun m hm => hs m (Nat.le_of_succ_le hm)

/-- A number is given away, other nodes are put down, and then the node under the number. -/
lemma GrowsTo.put (h : s.reserve.GrowsTo s' a) (node : Node) :
    s.GrowsTo (s'.put s.count node) (a + 1) where
  count := by
    have hcount : s.count + 1 + a ≤ s'.count := h.count
    show s.count + (a + 1) ≤ s'.count
    omega
  old m hm := by
    rw [NodeState.put, Nodes.lookup_put, if_neg (by omega)]
    exact h.old m (Nat.lt_succ_of_lt hm)
  fresh hs m hm := by
    have hcount : s.count + 1 + a ≤ s'.count := h.count
    change s'.count ≤ m at hm
    rw [NodeState.put, Nodes.lookup_put, if_neg (by omega)]
    exact h.fresh hs.reserve m hm

/-- The number that was given away stays free. -/
lemma GrowsTo.extends_put (h : s.reserve.GrowsTo s' a) (hs : s.IsFresh) (node : Node) :
    (s'.put s.count node).nodes.Extends s'.nodes :=
  Nodes.extends_put ((h.old _ (Nat.lt_succ_self _)).trans (hs _ (Nat.le_refl _)))

end NodeState

/-! ### Single tokens -/

/-- A token that a document in flow style may start with. -/
def Token.opensFlow : Token → Bool
  | .scalar .. | .flowSequenceStart | .flowMappingStart => true
  | _ => false

lemma Token.opensFlow_iff {u : Token} : u.opensFlow = true ↔
    (∃ text isPlain, u = .scalar text isPlain) ∨ u = .flowSequenceStart ∨
      u = .flowMappingStart := by
  cases u <;> simp [opensFlow]

namespace NodeReader

variable {t u : Token} {ts : List Token} {s : NodeState}

lemma bind_of_ok {α β : Type} {x : NodeReader α} {f : α → NodeReader β} {s s' : NodeState} {a : α}
    (h : x s = .ok (a, s')) : (x >>= f) s = f a s' := by
  show (x s >>= fun p => f p.1 p.2) = _
  rw [h]
  rfl

lemma peek?_cons (h : ∀ d, t ≠ .broken d) :
    peek? { s with tokens := t :: ts } = .ok (some t, { s with tokens := t :: ts }) := by
  cases t with
  | broken d => exact absurd rfl (h d)
  | _ => rfl

lemma node_scalar (fuel : Nat) (setting : Setting) (text : Text) (isPlain : Bool) :
    node (fuel + 2) setting { s with tokens := .scalar text isPlain :: ts } =
      .ok (s.count, { s.add (.scalar (scalarTag none text isPlain) text) with tokens := ts }) := rfl

lemma node_sequence (fuel : Nat) (setting : Setting) {items : List Nat} {s' : NodeState}
    (h : flowItems fuel true { s.reserve with tokens := ts } = .ok (items, s')) :
    node (fuel + 2) setting { s with tokens := .flowSequenceStart :: ts } =
      .ok (s.count, s'.put s.count (.sequence .seq items)) := by
  cases setting <;>
  · show (flowItems fuel true { s.reserve with tokens := ts } >>= _) >>= _ = _
    rw [h]
    rfl

lemma node_mapping (fuel : Nat) (setting : Setting) {entries : List (Nat × Nat)}
    {s' : NodeState}
    (h : flowEntries fuel true { s.reserve with tokens := ts } = .ok (entries, s')) :
    node (fuel + 2) setting { s with tokens := .flowMappingStart :: ts } =
      .ok (s.count, s'.put s.count (.mapping .map entries)) := by
  cases setting <;>
  · show (flowEntries fuel true { s.reserve with tokens := ts } >>= _) >>= _ = _
    rw [h]
    rfl

lemma nodeUnless_opening (fuel : Nat) (setting : Setting) {ends : List Token}
    (hu : u.opensFlow = true) (hends : ends.all (fun t => !t.opensFlow) = true) :
    nodeUnless (fuel + 1) setting ends { s with tokens := u :: ts } =
      node fuel setting { s with tokens := u :: ts } := by
  have hmem : ends.contains u = false := by
    rw [← Bool.not_eq_true, List.contains_iff_mem]
    intro hm
    simpa [hu] using List.all_eq_true.1 hends u hm
  have hbefore : isBefore ends { s with tokens := u :: ts } =
      .ok (false, { s with tokens := u :: ts }) := by
    rw [isBefore, bind_of_ok (peek?_cons (by rintro d rfl; cases hu))]
    show Except.ok (ends.contains u, _) = _
    rw [hmem]
  rw [nodeUnless, bind_of_ok hbefore]
  rfl

section

variable {fuel : Nat} (first : Bool) {n : Nat} {s₁ s' : NodeState}

lemma flowItems_item {ns : List Nat} (hu : u.opensFlow = true)
    (hn : node fuel .flow { s with tokens := u :: ts } = .ok (n, s₁))
    (hr : flowItems fuel false s₁ = .ok (ns, s')) :
    flowItems (fuel + 1) first { s with tokens := Flow.separator first ++ u :: ts } =
      .ok (n :: ns, s') := by
  cases first <;> rcases Token.opensFlow_iff.1 hu with ⟨_, _, rfl⟩ | rfl | rfl <;>
  · show (node fuel .flow { s with tokens := _ :: ts } >>= _) = _
    rw [hn]
    show (flowItems fuel false s₁ >>= _) = _
    rw [hr]
    rfl

/-- The key takes the next number. -/
lemma flowEntries_entry (key : Text) {es : List (Nat × Nat)} (hu : u.opensFlow = true)
    (hn : node (fuel + 1) .flow { s.add (.scalar .str key) with tokens := u :: ts } =
      .ok (n, s₁))
    (hr : flowEntries (fuel + 3) false s₁ = .ok (es, s')) :
    flowEntries (fuel + 4) first { s with
        tokens := Flow.separator first ++ .key :: .scalar key false :: .value :: u :: ts } =
      .ok ((s.count, n) :: es, s') := by
  have hv : nodeUnless (fuel + 2) .flow [.flowEntry, .flowMappingEnd]
      { s.add (.scalar .str key) with tokens := u :: ts } = .ok (n, s₁) :=
    (nodeUnless_opening (s := s.add (.scalar .str key)) (fuel + 1) .flow hu rfl).trans hn
  cases first <;>
  · show (nodeUnless (fuel + 2) .flow [.flowEntry, .flowMappingEnd]
      { s.add (.scalar .str key) with tokens := u :: ts } >>= _) = _
    rw [hv]
    show (flowEntries (fuel + 3) false s₁ >>= _) = _
    rw [hr]
    rfl

end

end NodeReader

/-! ### Whole documents -/

namespace Flow

lemma exists_opensFlow (t : Flow) : ∃ u us, t.tokens = u :: us ∧ u.opensFlow = true := by
  cases t <;> exact ⟨_, _, rfl, rfl⟩

lemma length_tokens_pos (t : Flow) : 0 < t.tokens.length := by
  obtain ⟨u, us, ht, -⟩ := t.exists_opensFlow
  simp [ht]

lemma length_itemTokens_pos (first : Bool) (items : List Flow) :
    0 < (itemTokens first items).length := by
  cases items with
  | nil => simp [itemTokens]
  | cons t rest =>
    have := t.length_tokens_pos
    simp only [itemTokens, List.length_append]
    omega

mutual

/-- The reader of nodes takes the tokens of a document, and puts down its nodes. -/
theorem exists_read_tokens (setting : NodeReader.Setting) : (t : Flow) → {s : NodeState} →
    s.IsFresh → (ts : List Token) → (fuel : Nat) → 2 * t.tokens.length ≤ fuel →
    ∃ n s', NodeReader.node fuel setting { s with tokens := t.tokens ++ ts } =
        .ok (n, { s' with tokens := ts }) ∧
      s.GrowsTo s' t.height ∧ t.StandsIn s'.nodes n
  | t, _, _, _, 0, h => absurd h (by have := t.length_tokens_pos; omega)
  | t, _, _, _, 1, h => absurd h (by have := t.length_tokens_pos; omega)
  | scalar text isPlain, s, _, ts, fuel + 2, _ => by
    refine ⟨_, _, NodeReader.node_scalar fuel setting text isPlain, s.growsTo_add _, ?_⟩
    rw [StandsIn, NodeState.add, Nodes.lookup_put, if_pos rfl]
  | sequence items, s, hs, ts, fuel + 2, h => by
    simp only [tokens, List.length_cons] at h
    obtain ⟨is, s', hread, hgrows, hstands⟩ := exists_read_itemTokens true items hs.reserve ts fuel
      (by omega)
    refine ⟨_, s'.put s.count (.sequence .seq is), NodeReader.node_sequence fuel setting hread,
      hgrows.put _, ?_⟩
    rw [StandsIn]
    exact ⟨is, by rw [NodeState.put, Nodes.lookup_put, if_pos rfl],
      ItemsStandIn.mono (hgrows.extends_put hs _) items hstands⟩
  | mapping entries, s, hs, ts, fuel + 2, h => by
    simp only [tokens, List.length_cons] at h
    obtain ⟨es, s', hread, hgrows, hstands⟩ := exists_read_entryTokens true entries hs.reserve ts
      fuel (by omega)
    refine ⟨_, s'.put s.count (.mapping .map es), NodeReader.node_mapping fuel setting hread,
      hgrows.put _, ?_⟩
    rw [StandsIn]
    exact ⟨es, by rw [NodeState.put, Nodes.lookup_put, if_pos rfl],
      EntriesStandIn.mono (hgrows.extends_put hs _) entries hstands⟩

theorem exists_read_itemTokens (first : Bool) : (items : List Flow) → {s : NodeState} →
    s.IsFresh → (ts : List Token) → (fuel : Nat) → 2 * (itemTokens first items).length ≤ fuel →
    ∃ is s', NodeReader.flowItems fuel first { s with tokens := itemTokens first items ++ ts } =
        .ok (is, { s' with tokens := ts }) ∧
      s.GrowsTo s' (itemsHeight items) ∧ ItemsStandIn s'.nodes is items
  | items, _, _, _, 0, h => absurd h (by have := length_itemTokens_pos first items; omega)
  | [], s, _, ts, fuel + 1, _ => ⟨[], s, rfl, .refl s, by rw [ItemsStandIn]⟩
  | t :: rest, s, hs, ts, fuel + 1, h => by
    have hpos := length_itemTokens_pos false rest
    simp only [itemTokens, List.length_append] at h
    obtain ⟨n, s₁, hn, hgrows₁, ht⟩ := exists_read_tokens .flow t hs (itemTokens false rest ++ ts)
      fuel (by omega)
    have hs₁ := hgrows₁.fresh hs
    obtain ⟨is, s', hr, hgrows, hrest⟩ := exists_read_itemTokens false rest hs₁ ts fuel
      (by have := t.length_tokens_pos; omega)
    obtain ⟨u, us, htokens, hu⟩ := t.exists_opensFlow
    rw [htokens, List.cons_append] at hn
    have hread := NodeReader.flowItems_item first hu hn hr
    refine ⟨n :: is, s', by simpa [itemTokens, htokens] using hread, hgrows₁.trans hgrows, ?_⟩
    rw [ItemsStandIn]
    exact ⟨n, is, rfl, StandsIn.mono (hgrows.extends hs₁) t ht, hrest⟩

theorem exists_read_entryTokens (first : Bool) : (entries : List (Text × Flow)) →
    {s : NodeState} → s.IsFresh → (ts : List Token) → (fuel : Nat) →
    2 * (entryTokens first entries).length ≤ fuel →
    ∃ es s', NodeReader.flowEntries fuel first
        { s with tokens := entryTokens first entries ++ ts } = .ok (es, { s' with tokens := ts }) ∧
      s.GrowsTo s' (entriesHeight entries) ∧ EntriesStandIn s'.nodes es entries
  | [], _, _, _, 0, h => absurd h (by simp [entryTokens])
  | [], s, _, ts, fuel + 1, _ => ⟨[], s, rfl, .refl s, by rw [EntriesStandIn]⟩
  | (key, t) :: rest, s, hs, ts, fuel, h => by
    simp only [entryTokens, List.length_append, List.length_cons] at h
    obtain ⟨fuel, rfl⟩ : ∃ k, fuel = k + 4 := ⟨fuel - 4, by omega⟩
    have hkey := s.growsTo_add (.scalar .str key)
    have hs₀ := hkey.fresh hs
    obtain ⟨n, s₁, hn, hgrows₁, ht⟩ := exists_read_tokens .flow t hs₀
      (entryTokens false rest ++ ts) (fuel + 1) (by omega)
    have hs₁ := hgrows₁.fresh hs₀
    obtain ⟨es, s', hr, hgrows, hrest⟩ := exists_read_entryTokens false rest hs₁ ts (fuel + 3)
      (by omega)
    obtain ⟨u, us, htokens, hu⟩ := t.exists_opensFlow
    rw [htokens, List.cons_append] at hn
    have hread := NodeReader.flowEntries_entry first key hu hn hr
    refine ⟨(s.count, n) :: es, s', by simpa [entryTokens, htokens] using hread, ?_, ?_⟩
    · exact ((hkey.trans hgrows₁).trans hgrows).mono (by rw [entriesHeight]; omega)
    · rw [EntriesStandIn]
      refine ⟨s.count, n, es, rfl, ?_, StandsIn.mono (hgrows.extends hs₁) t ht, hrest⟩
      exact hgrows.extends hs₁ _ _ (hgrows₁.extends hs₀ _ _
        (by rw [NodeState.add, Nodes.lookup_put, if_pos rfl]))

end

/-- A text that is cut into the tokens of a document has its nodes. -/
theorem exists_graph {t : Flow} {cs : List Char} (h : Token.scan cs = t.tokens) :
    ∃ g : Graph, Graph.ofChars? cs = .ok (some g) ∧ t.StandsIn g.nodes g.root ∧
      t.height ≤ g.count := by
  obtain ⟨n, s, hread, hgrows, hstands⟩ := exists_read_tokens .block t
    (s := ⟨[], NodeReader.usualHandles, [], [], 0⟩) (fun _ _ => rfl) [] (4 * t.tokens.length + 8)
    (by omega)
  rw [List.append_nil] at hread
  refine ⟨⟨s.nodes, s.count, n⟩, ?_, hstands, by simpa using hgrows.count⟩
  have hdocument : NodeReader.document ⟨t.tokens, NodeReader.usualHandles, [], [], 0⟩ =
      .ok (some n, { s with tokens := [] }) := by
    obtain ⟨u, us, ht, hu⟩ := t.exists_opensFlow
    rw [ht] at hread ⊢
    have hpeek : NodeReader.peek? ⟨u :: us, NodeReader.usualHandles, [], [], 0⟩ =
        .ok (some u, ⟨u :: us, NodeReader.usualHandles, [], [], 0⟩) :=
      NodeReader.peek?_cons (s := ⟨[], NodeReader.usualHandles, [], [], 0⟩)
        (by rintro d rfl; cases hu)
    rw [NodeReader.document,
      NodeReader.bind_of_ok (a := ⟨u :: us, NodeReader.usualHandles, [], [], 0⟩) rfl]
    dsimp only
    rw [NodeReader.bind_of_ok hpeek]
    rcases Token.opensFlow_iff.1 hu with ⟨_, _, rfl⟩ | rfl | rfl <;>
    · dsimp only
      rw [NodeReader.bind_of_ok hread]
      rfl
  rw [Graph.ofChars?, h, hdocument]
  rfl

end Flow

end Yaml

end JsonSchema
