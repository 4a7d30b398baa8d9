import JsonSchema.Document.Yaml.Build
import JsonSchema.Proofs.Content.Alike
import JsonSchema.Proofs.Readers.Flow
import Mathlib.Data.List.TakeDrop
import Mathlib.Data.List.TakeWhile

/-!
The values of documents in flow style.

Such a document merges nothing, and its keys are texts, so filling its collections changes no node.
Main statement: a text that is cut into the tokens of a document has the value that it means.
-/

namespace JsonSchema

namespace Yaml

/-! ### Filling -/

namespace Flow

mutual

/-- All scalars of a document have values. -/
def IsReadable : Flow → Prop
  | scalar text isPlain =>
    isScalarTag (NodeReader.scalarTag none text isPlain) = true ∧
      ∃ v, scalarOf (NodeReader.scalarTag none text isPlain) text = .ok v
  | sequence items => ItemsAreReadable items
  | mapping entries => EntriesAreReadable entries

def ItemsAreReadable : List Flow → Prop
  | [] => True
  | t :: rest => t.IsReadable ∧ ItemsAreReadable rest

def EntriesAreReadable : List (Text × Flow) → Prop
  | [] => True
  | (_, t) :: rest => t.IsReadable ∧ EntriesAreReadable rest

end

end Flow

section

variable {ns : Nodes} {n : Nat} {x : Node}

lemma Nodes.tag_of_lookup (h : ns.lookup n = some x) : ns.tag n = x.tag := by
  rw [Nodes.tag, node_of_lookup h]

/-- A written scalar has the value of its text. -/
lemma Nodes.scalar_of_lookup {tag : Tag} {text : Text}
    (h : ns.lookup n = some (.scalar tag text)) (htag : isScalarTag tag = true) (count : Nat) :
    ns.scalar count n = scalarOf tag text := by
  have hnode := node_of_lookup h
  have hntag : ns.tag n = tag := tag_of_lookup h
  simp only [Nodes.scalar, hntag, htag, if_true, Nodes.textOf, hnode, Nodes.isMapping,
    Bool.and_false, Bool.false_eq_true, if_false]
  rfl

lemma isCollectionTag_eq_false {tag : Tag} (h : isScalarTag tag = true) :
    isCollectionTag tag = false := by
  cases tag <;> first | rfl | cases h

end

/-- The nodes are these, and what is waiting are collections of documents among them. -/
structure Filling.IsOf (ns : Nodes) (s : Filling) : Prop where
  nodes : s.nodes = ns
  waiting : ∀ n ∈ s.waiting, isCollectionTag (ns.tag n) = true ∧
    ∃ t : Flow, t.StandsIn ns n ∧ t.IsReadable

namespace Filler

variable {α β : Type} {ns : Nodes} {right : α → Prop}

/-- A step that has an answer and leaves the nodes as they are. -/
def Keeps (ns : Nodes) (right : α → Prop) (m : Filler α) : Prop :=
  ∀ s : Filling, s.IsOf ns → ∃ a s', m s = .ok (a, s') ∧ right a ∧ s'.IsOf ns

/-- Such a step, whatever its answer is. -/
abbrev Completes (ns : Nodes) (m : Filler α) : Prop := Keeps ns (fun _ => True) m

lemma Keeps.pure {a : α} (h : right a) : Keeps ns right (Pure.pure a : Filler α) :=
  fun s hs => ⟨a, s, rfl, h, hs⟩

lemma Keeps.bind {m : Filler α} {f : α → Filler β} {behind : β → Prop} (h : Keeps ns right m)
    (hf : ∀ a, right a → Keeps ns behind (f a)) : Keeps ns behind (m >>= f) := by
  intro s hs
  obtain ⟨a, s₁, hm, ha, hs₁⟩ := h s hs
  obtain ⟨b, s₂, hfa, hb, hs₂⟩ := hf a ha s₁ hs₁
  refine ⟨b, s₂, ?_, hb, hs₂⟩
  show (m s >>= fun p => f p.1 p.2) = _
  rw [hm]
  exact hfa

lemma Completes.bind {m : Filler α} {f : α → Filler β} (h : Completes ns m)
    (hf : ∀ a, Completes ns (f a)) : Completes ns (m >>= f) := Keeps.bind h fun a _ => hf a

lemma keeps_get : Keeps ns (·.IsOf ns) (get : Filler Filling) :=
  fun s hs => ⟨s, s, rfl, hs, hs⟩

lemma completes_set {s : Filling} (h : s.IsOf ns) : Completes ns (set s : Filler Unit) :=
  fun _ _ => ⟨⟨⟩, s, rfl, trivial, h⟩

lemma keeps_lift {x : Build α} {a : α} (h : x = .ok a) : Keeps ns (· = a) (x : Filler α) := by
  intro s hs
  exact ⟨a, s, by rw [h]; rfl, rfl, hs⟩

/-- A scalar is met. -/
lemma keeps_meet_scalar {n : Nat} {tag : Tag} {text : Text} {v : Value}
    (h : ns.lookup n = some (.scalar tag text)) (htag : isScalarTag tag = true)
    (hv : scalarOf tag text = .ok v) : Keeps ns (· = true) (meet n) := by
  unfold meet
  refine keeps_get.bind fun s hs => ?_
  obtain rfl := hs.nodes
  have hscalar : ¬ isCollectionTag (s.nodes.tag n) = true := by
    rw [Nodes.tag_of_lookup h, Node.tag, isCollectionTag_eq_false htag]
    exact Bool.false_ne_true
  rw [if_neg hscalar]
  exact (keeps_lift ((Nodes.scalar_of_lookup h htag _).trans hv)).bind fun _ _ => .pure rfl

/-- A collection is met, and waits to be filled. -/
lemma completes_meet_collection {t : Flow} {n : Nat} (hstands : t.StandsIn ns n)
    (hread : t.IsReadable)
    (htag : isCollectionTag (ns.tag n) = true) : Completes ns (meet n) := by
  unfold meet
  refine keeps_get.bind fun s hs => ?_
  have htag' : isCollectionTag (s.nodes.tag n) = true := by rw [hs.nodes, htag]
  rw [if_pos htag']
  have hmet : Filling.IsOf ns { s with met := n :: s.met, waiting := s.waiting ++ [n] } := by
    refine ⟨hs.nodes, fun m hm => ?_⟩
    rcases List.mem_append.1 hm with hm | hm
    · exact hs.waiting m hm
    · exact List.mem_singleton.1 hm ▸ ⟨htag, t, hstands, hread⟩
  split
  · exact (completes_set hmet).bind fun _ => .pure trivial
  · exact .pure trivial

lemma completes_meet {t : Flow} {n : Nat} (hstands : t.StandsIn ns n) (hread : t.IsReadable) :
    Completes ns (meet n) := by
  cases t with
  | scalar text isPlain =>
    rw [Flow.StandsIn] at hstands
    obtain ⟨htag, v, hv⟩ := hread
    intro s hs
    obtain ⟨b, s', hm, -, hs'⟩ := keeps_meet_scalar hstands htag hv s hs
    exact ⟨b, s', hm, trivial, hs'⟩
  | sequence items =>
    have hn := hstands
    rw [Flow.StandsIn] at hn
    obtain ⟨is, hn, -⟩ := hn
    exact completes_meet_collection hstands hread (by rw [Nodes.tag_of_lookup hn]; rfl)
  | mapping entries =>
    have hn := hstands
    rw [Flow.StandsIn] at hn
    obtain ⟨es, hn, -⟩ := hn
    exact completes_meet_collection hstands hread (by rw [Nodes.tag_of_lookup hn]; rfl)

lemma completes_meetItems {is : List Nat} {items : List Flow}
    (hstands : Flow.ItemsStandIn ns is items) (hread : Flow.ItemsAreReadable items) :
    Completes ns (is.forM fun i => do let _ ← meet i) := by
  induction items generalizing is with
  | nil =>
    rw [Flow.ItemsStandIn] at hstands
    subst hstands
    exact .pure trivial
  | cons t rest ih =>
    rw [Flow.ItemsStandIn] at hstands
    obtain ⟨i, js, rfl, ht, hrest⟩ := hstands
    obtain ⟨hreadt, hreadrest⟩ := hread
    exact ((completes_meet ht hreadt).bind fun _ => .pure trivial).bind fun _ => ih hrest hreadrest

lemma completes_meetEntries {es : List (Nat × Nat)} {entries : List (Text × Flow)}
    (hstands : Flow.EntriesStandIn ns es entries) (hread : Flow.EntriesAreReadable entries) :
    Completes ns (es.forM meetEntry) := by
  induction entries generalizing es with
  | nil =>
    rw [Flow.EntriesStandIn] at hstands
    subst hstands
    exact .pure trivial
  | cons e rest ih =>
    rw [Flow.EntriesStandIn] at hstands
    obtain ⟨k, v, fs, rfl, hkey, ht, hrest⟩ := hstands
    obtain ⟨hreadt, hreadrest⟩ := hread
    have hentry : Completes ns (meetEntry (k, v)) := by
      refine (keeps_meet_scalar hkey rfl rfl).bind fun b hb => ?_
      subst hb
      exact (completes_meet ht hreadt).bind fun _ => .pure trivial
    exact hentry.bind fun _ => ih hrest hreadrest

end Filler

/-! ### Merging nothing -/

namespace Nodes

variable {ns : Nodes}

lemma foldl_plainKey {ks : List Nat} (h : ∀ k ∈ ks, ns.tag k = .str) :
    ks.foldl plainKey ns = ns := by
  induction ks with
  | nil => rfl
  | cons k ks ih =>
    obtain ⟨hk, hks⟩ := List.forall_mem_cons.1 h
    rw [List.foldl_cons, plainKey, hk]
    exact ih hks

/-- Where all keys are texts, nothing is merged. -/
lemma layOut_entries {n : Nat} {es : List (Nat × Nat)} {entries : List (Text × Flow)}
    (hn : ns.entries n = es) (hstands : Flow.EntriesStandIn ns es entries) (merges : Nat) :
    ns.layOut (merges + 1) n = .ok ns := by
  have hkeys : ∀ e ∈ es, ns.tag e.1 = .str := by
    clear hn
    induction entries generalizing es with
    | nil =>
      rw [Flow.EntriesStandIn] at hstands
      subst hstands
      nofun
    | cons e rest ih =>
      rw [Flow.EntriesStandIn] at hstands
      obtain ⟨k, v, fs, rfl, hkey, -, hrest⟩ := hstands
      exact List.forall_mem_cons.2 ⟨tag_of_lookup hkey, ih hrest⟩
  have hspan : es.span (!ns.isMerge ·) = (es, []) := by
    have hmerge : ∀ e ∈ es, (!ns.isMerge e) = true := fun e he => by
      rw [isMerge, hkeys e he]
      rfl
    rw [List.span_eq_takeWhile_dropWhile, Prod.mk.injEq, List.takeWhile_eq_self_iff,
      List.dropWhile_eq_nil_iff]
    exact ⟨hmerge, hmerge⟩
  rw [layOut, hn, hspan]
  exact congrArg Except.ok (foldl_plainKey (by simpa using fun a b h => hkeys (a, b) h))

end Nodes

/-! ### Filling -/

namespace Filler

variable {ns : Nodes}

lemma completes_fill {t : Flow} {n : Nat} (hstands : t.StandsIn ns n) (hread : t.IsReadable)
    (htag : isCollectionTag (ns.tag n) = true) : Completes ns (fill n) := by
  unfold fill
  refine keeps_get.bind fun s hs => ?_
  obtain rfl := hs.nodes
  cases t with
  | scalar text isPlain =>
    rw [Flow.StandsIn] at hstands
    rw [Nodes.tag_of_lookup hstands, Node.tag, isCollectionTag_eq_false hread.1] at htag
    cases htag
  | sequence items =>
    rw [Flow.StandsIn] at hstands
    obtain ⟨is, hn, his⟩ := hstands
    rw [Nodes.node_of_lookup hn]
    exact completes_meetItems his hread
  | mapping entries =>
    rw [Flow.StandsIn] at hstands
    obtain ⟨es, hn, hes⟩ := hstands
    have hentries : s.nodes.entries n = es := by rw [Nodes.entries, Nodes.node_of_lookup hn]
    rw [Nodes.node_of_lookup hn]
    dsimp only
    refine (keeps_lift (Nodes.layOut_entries hentries hes _)).bind fun ns hns => ?_
    subst hns
    refine Completes.bind (completes_set hs) fun _ => ?_
    rw [hentries]
    exact completes_meetEntries hes hread

/-- All that is waiting is filled. -/
lemma completes_fillAll (fuel : Nat) : Completes ns (fillAll fuel) := by
  induction fuel with
  | zero => exact .pure trivial
  | succ fuel ih =>
    rw [fillAll]
    refine keeps_get.bind fun s hs => ?_
    split
    case h_1 => exact .pure trivial
    case h_2 n rest hwaiting =>
      have hall := hs.waiting
      rw [hwaiting] at hall
      obtain ⟨⟨htag, t, hstands, hread⟩, hrest⟩ := List.forall_mem_cons.1 hall
      have hmodify : Completes ns (modify fun s => { s with waiting := rest } : Filler Unit) :=
        fun s' hs' => ⟨⟨⟩, { s' with waiting := rest }, rfl, trivial, hs'.nodes, hrest⟩
      exact hmodify.bind fun _ => (completes_fill hstands hread htag).bind fun _ => ih

end Filler

/-- Filling the collections of a readable document changes none of its nodes. -/
theorem Graph.fill_eq {g : Graph} {t : Flow} (hstands : t.StandsIn g.nodes g.root)
    (hread : t.IsReadable) : g.fill = .ok g.nodes := by
  have hpasses : Filler.Completes g.nodes
      (do let _ ← Filler.meet g.root; Filler.fillAll (g.count + 1)) :=
    (Filler.completes_meet hstands hread).bind fun _ => Filler.completes_fillAll _
  obtain ⟨_, s, hs, -, hs'⟩ := hpasses ⟨g.nodes, g.count, [], []⟩ ⟨rfl, nofun⟩
  rw [Graph.fill, hs]
  exact congrArg Except.ok hs'.nodes

end Yaml

/-! ### Values -/

/-- Alike members put in under one name keep objects alike. -/
lemma Entries.Alike.insert {es fs : Entries} (h : es.Alike fs) (s : Text) {v w : Value}
    (hvw : v.Alike w) : (es.insert (.string s) v).Alike (fs.insert (.string s) w) := by
  have hstring {gs : Entries} (hs : gs.HasStringKeys) (x : Value) :
      (gs.insert (.string s) x).HasStringKeys :=
    forall_keys_insert (P := (·.isString = true)) hs rfl x
  refine alike_of_lookup (hstring h.left.stringKeys v) (h.left.distinctKeys.insert _ v)
    (hstring h.right.stringKeys w) (h.right.distinctKeys.insert _ w) fun key => ?_
  rw [get?_insert rfl, get?_insert rfl]
  split
  · exact .some hvw
  · exact h.lookup key

namespace Yaml

/-- What is put under a key, and its value under the same key. -/
abbrev KeyMatches {α : Type} (R : α → Value → Prop) (e : Value × α) (f : Value × Value) : Prop :=
  e.1 = f.1 ∧ R e.2 f.2

/-- Values may be taken of what is put under keys, before or afterwards. -/
lemma forall₂_putKey {α : Type} {R : α → Value → Prop} {es : List (Value × α)} {fs : Entries}
    (h : List.Forall₂ (KeyMatches R) es fs) {e : Value × α} {f : Value × Value}
    (hef : KeyMatches R e f) :
    List.Forall₂ (KeyMatches R) (putKey es e) (fs.insert f.1 f.2) := by
  induction h with
  | nil => exact .cons hef .nil
  | @cons e' f' es fs hhead hrest ih =>
    obtain ⟨k, a⟩ := e'
    obtain ⟨k', v⟩ := f'
    obtain ⟨rfl, hav⟩ : k = k' ∧ R a v := hhead
    rw [putKey, Entries.insert, hef.1]
    split
    · exact .cons ⟨rfl, hef.2⟩ hrest
    · exact .cons ⟨rfl, hav⟩ ih

lemma forall₂_foldl_putKey {α : Type} {R : α → Value → Prop} {es : List (Value × α)} {fs : Entries}
    (h : List.Forall₂ (KeyMatches R) es fs) :
    List.Forall₂ (KeyMatches R) (es.foldl putKey []) (Entries.ofList fs) := by
  have hall : ∀ {done done'}, List.Forall₂ (KeyMatches R) done done' →
      List.Forall₂ (KeyMatches R) (es.foldl putKey done)
        (fs.foldl (fun entries p => Entries.insert entries p.1 p.2) done') := by
    induction h with
    | nil => exact id
    | cons hhead _ ih => exact fun hdone => ih (forall₂_putKey hdone hhead)
  exact hall .nil

lemma mapM_of_forall₂ {α β : Type} {f : α → Option β} {as : List α} {bs : List β}
    (h : List.Forall₂ (fun a b => f a = some b) as bs) : as.mapM f = some bs := by
  induction h with
  | nil => rfl
  | cons hhead _ ih =>
    rw [List.mapM_cons, hhead, ih]
    rfl

namespace Flow

/-- The value of a document wherever it stands among nodes. It holds nothing but JSON, and it
equals itself. -/
structure Means (t : Flow) (v : Value) : Prop where
  readable : t.IsReadable
  value?_eq : ∀ {ns : Nodes} {n : Nat} (count fuel : Nat), t.StandsIn ns n →
    t.height ≤ fuel → ns.value? count fuel n = some v
  alike : v.Alike v

lemma means_scalar {text : Text} {isPlain : Bool} {v : Value}
    (htag : isScalarTag (NodeReader.scalarTag none text isPlain) = true)
    (hv : scalarOf (NodeReader.scalarTag none text isPlain) text = .ok v) (halike : v.Alike v) :
    (scalar text isPlain).Means v where
  readable := ⟨htag, v, hv⟩
  value?_eq {ns n} count fuel hstands hfuel := by
    obtain ⟨fuel, rfl⟩ : ∃ k, fuel = k + 1 := ⟨fuel - 1, by rw [height] at hfuel; omega⟩
    rw [StandsIn] at hstands
    rw [Nodes.value?, Nodes.node_of_lookup hstands]
    dsimp only
    rw [Nodes.scalar_of_lookup hstands htag, hv]
    rfl
  alike := halike

lemma means_string (s : Text) : (scalar s false).Means (.string s) :=
  means_scalar rfl rfl (Value.alike_string s)

lemma means_sequence {items : List Flow} {vs : List Value} (h : List.Forall₂ Means items vs) :
    (sequence items).Means (.list vs) where
  readable := by
    rw [IsReadable]
    induction h with
    | nil => trivial
    | cons hv _ ih => exact ⟨hv.readable, ih⟩
  value?_eq {ns n} count fuel hstands hfuel := by
    rw [height] at hfuel
    obtain ⟨fuel, rfl⟩ : ∃ k, fuel = k + 1 := ⟨fuel - 1, by omega⟩
    rw [StandsIn] at hstands
    obtain ⟨is, hn, his⟩ := hstands
    have hitems : List.Forall₂ (fun i v => ns.value? count fuel i = some v) is vs := by
      clear hn
      induction h generalizing is with
      | nil =>
        rw [ItemsStandIn] at his
        subst his
        exact .nil
      | cons hv _ ih =>
        rw [ItemsStandIn] at his
        obtain ⟨i, js, rfl, hi, hjs⟩ := his
        rw [itemsHeight] at hfuel
        exact .cons (hv.value?_eq count fuel hi (by omega)) (ih (by omega) js hjs)
    rw [Nodes.value?, Nodes.node_of_lookup hn]
    dsimp only
    rw [mapM_of_forall₂ hitems]
    rfl
  alike := by
    rw [Value.list, Value.alike_array, List.forall₂_same]
    intro v hv
    obtain ⟨t, -, ht⟩ := (Matched.of_forall₂ h).right v hv
    exact ht.alike

/-- An entry of a document, and the entry of an object that it stands for. -/
def EntryMeans (e : Text × Flow) (p : Value × Value) : Prop :=
  p.1 = .string e.1 ∧ e.2.Means p.2

lemma alike_entries {entries : List (Text × Flow)} {pairs : List (Value × Value)}
    (h : List.Forall₂ EntryMeans entries pairs) {done : Entries} (hdone : done.Alike done) :
    Entries.Alike (pairs.foldl (fun done p => done.insert p.1 p.2) done)
      (pairs.foldl (fun done p => done.insert p.1 p.2) done) := by
  induction h generalizing done with
  | nil => exact hdone
  | @cons e p _ _ hp _ ih =>
    rw [List.foldl_cons, hp.1]
    exact ih (hdone.insert _ hp.2.alike)

/-- The keys of a document are texts, and their values are those of its members. -/
lemma exists_keyed {entries : List (Text × Flow)} {pairs : List (Value × Value)}
    (h : List.Forall₂ EntryMeans entries pairs) {ns : Nodes} {es : List (Nat × Nat)}
    (hes : EntriesStandIn ns es entries) (count fuel : Nat)
    (hfuel : entriesHeight entries ≤ fuel) :
    ∃ keyed, es.mapM (ns.key? count) = some keyed ∧
      List.Forall₂ (KeyMatches fun n v => ns.value? count fuel n = some v) keyed pairs := by
  induction h generalizing es with
  | nil =>
    rw [EntriesStandIn] at hes
    subst hes
    exact ⟨[], rfl, .nil⟩
  | @cons e p _ _ hp _ ih =>
    rw [EntriesStandIn] at hes
    obtain ⟨k, n, fs, rfl, hkey, hn, hfs⟩ := hes
    rw [entriesHeight] at hfuel
    obtain ⟨keyed, hkeyed, hmatch⟩ := ih hfs (by omega)
    refine ⟨(.string e.1, n) :: keyed, ?_, .cons ⟨hp.1.symm, ?_⟩ hmatch⟩
    · rw [List.mapM_cons, Nodes.key?, Nodes.scalar_of_lookup hkey rfl, hkeyed]
      rfl
    · exact hp.2.value?_eq count fuel hn (by omega)

lemma means_mapping {entries : List (Text × Flow)} {pairs : List (Value × Value)}
    (h : List.Forall₂ EntryMeans entries pairs) :
    (mapping entries).Means (.object (Entries.ofList pairs)) where
  readable := by
    rw [IsReadable]
    induction h with
    | nil => trivial
    | cons hp _ ih => exact ⟨hp.2.readable, ih⟩
  value?_eq {ns n} count fuel hstands hfuel := by
    rw [height] at hfuel
    obtain ⟨fuel, rfl⟩ : ∃ k, fuel = k + 1 := ⟨fuel - 1, by omega⟩
    rw [StandsIn] at hstands
    obtain ⟨es, hn, hes⟩ := hstands
    obtain ⟨keyed, hkeyed, hmatch⟩ := exists_keyed h hes count fuel (by omega)
    have hvalues : (keyed.foldl putKey []).mapM
        (fun e => do return (e.1, ← ns.value? count fuel e.2)) = some (Entries.ofList pairs) := by
      refine mapM_of_forall₂ ((forall₂_foldl_putKey hmatch).imp fun e f hef => ?_)
      rw [hef.1, hef.2]
      rfl
    rw [Nodes.value?, Nodes.node_of_lookup hn]
    dsimp only
    rw [hkeyed]
    show ((keyed.foldl putKey []).mapM
      (fun e => do return (e.1, ← ns.value? count fuel e.2)) >>= fun es : Entries => some _) = _
    rw [hvalues]
    rfl
  alike := Value.alike_object.2 (alike_entries h Entries.alike_nil)

/-- A text that is cut into the tokens of a document has its value. -/
theorem Means.load_eq {t : Flow} {v : Value} {cs : List Char} (h : t.Means v)
    (hscan : Token.scan cs = t.tokens) : Yaml.load cs = .ok (.value v) := by
  obtain ⟨g, hg, hstands, hheight⟩ := exists_graph hscan
  have hvalue := h.value?_eq g.count (g.count + 1) hstands (by omega)
  have hreading : g.reading = .ok (.value v) := by
    rw [Graph.reading, Graph.fill_eq hstands h.readable]
    simp only [bind, Except.bind, hvalue]
    rfl
  rw [Yaml.load, hg]
  show g.reading.mapError Error.build = _
  rw [hreading]
  rfl

end Flow

end Yaml

end JsonSchema
