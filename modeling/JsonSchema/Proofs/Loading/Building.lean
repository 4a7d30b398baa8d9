import JsonSchema.Proofs.Loading.Composing
import JsonSchema.Proofs.Loading.Forms

/-!
How filling the collections of a YAML document fails.

A node is sound if its text fits its tag, and a mapping if it is not read as a text. Laying out what
mappings merge keeps nodes sound, so each step of filling keeps them so or finds a node malformed.
Main statement: of a text whose nodes are sound no other defect is found.
-/

namespace JsonSchema.Yaml

/-! ### Sound nodes -/

/-- The text of a scalar fits its tag, and a mapping is not tagged as a scalar. -/
def Node.isSound : Node → Bool
  | scalar tag text => tag.fits text.chars
  | sequence .. => true
  | mapping tag _ => !isScalarTag tag && tag != .value

namespace Nodes

def AreSound (ns : Nodes) : Prop := ∀ n, (ns.node n).isSound = true

variable {ns ns' ns'' : Nodes} {n m : Nat} {x : Node}

lemma areSound_of_all (h : ns.all (·.2.isSound) = true) : ns.AreSound := by
  intro n
  rw [node]
  cases hn : ns.lookup n with
  | none => rfl
  | some x =>
    obtain ⟨before, behind, rfl, -⟩ := List.lookup_eq_some_iff.1 hn
    exact List.all_eq_true.1 h (n, x) (by simp)

lemma node_put : (ns.put n x).node m = if m = n then x else ns.node m := by
  rw [node, lookup_put]
  split <;> rfl

lemma AreSound.put (h : ns.AreSound) (hx : x.isSound = true) : (ns.put n x).AreSound := by
  intro m
  rw [node_put]
  split
  · exact hx
  · exact h m

lemma isMapping_iff : ns.isMapping n = true ↔ ∃ tag entries, ns.node n = .mapping tag entries := by
  unfold isMapping
  cases ns.node n <;> simp

/-- What has entries is a mapping. -/
lemma isMapping_of_entries (h : ns.entries n ≠ []) : ns.isMapping n = true := by
  unfold entries at h
  unfold isMapping
  cases hn : ns.node n with
  | mapping => rfl
  | _ =>
    rw [hn] at h
    exact absurd rfl h

/-! ### Laying out -/

/-- Nodes that are sound, and mappings where mappings were. -/
structure Follows (ns' ns : Nodes) : Prop where
  sound : ns'.AreSound
  mappings : ∀ m, ns.isMapping m = true → ns'.isMapping m = true

lemma Follows.refl (h : ns.AreSound) : ns.Follows ns := ⟨h, fun _ hm => hm⟩

lemma Follows.trans (h : ns''.Follows ns') (h' : ns'.Follows ns) : ns''.Follows ns :=
  ⟨h.sound, fun m hm => h.mappings m (h'.mappings m hm)⟩

/-- A mapping keeps its tag, whatever its entries become. -/
lemma AreSound.putEntries (h : ns.AreSound) (hn : ns.isMapping n = true)
    (entries : List (Nat × Nat)) : (ns.putEntries n entries).Follows ns where
  sound := by
    obtain ⟨tag, old, hnode⟩ := isMapping_iff.1 hn
    have hsound := h n
    rw [hnode] at hsound
    refine h.put ?_
    rw [Nodes.tag, hnode]
    exact hsound
  mappings m hm := by
    unfold isMapping at hm ⊢
    by_cases hmn : m = n
    · rw [Nodes.putEntries, node_put, if_pos hmn]
    · rw [Nodes.putEntries, node_put, if_neg hmn]
      exact hm

/-- A key for values becomes a text, and is no mapping. -/
lemma AreSound.plainKey (h : ns.AreSound) (n : Nat) : (ns.plainKey n).Follows ns := by
  unfold Nodes.plainKey
  split
  · rename_i htag
    have hsound := h n
    rw [Nodes.tag, beq_iff_eq] at htag
    have hno : ns.isMapping n = false := by
      unfold isMapping
      split
      · rename_i tag entries hn
        rw [hn] at htag hsound
        cases htag
        cases hsound
      · rfl
    refine ⟨h.put ?_, fun m hm => ?_⟩
    · split
      · rfl
      · rfl
      · rename_i tag entries hn
        rw [isMapping, hn] at hno
        cases hno
    · have hne : m ≠ n := by
        rintro rfl
        rw [hno] at hm
        cases hm
      unfold isMapping at hm ⊢
      rw [node_put, if_neg hne]
      exact hm
  · exact .refl h

lemma AreSound.plainKeys (h : ns.AreSound) (ks : List Nat) :
    (ks.foldl Nodes.plainKey ns).Follows ns := by
  induction ks generalizing ns with
  | nil => exact .refl h
  | cons k ks ih =>
    have hk := h.plainKey k
    exact (ih hk.sound).trans hk

lemma AreSound.merged {layOut : Nodes → Nat → Build Nodes} (hlayOut : ∀ {ns : Nodes} (n : Nat),
    ns.AreSound → Ends (· = .malformed) (·.Follows ns) (layOut ns n)) (h : ns.AreSound)
    (source : Nat) : Ends (· = .malformed) (·.1.Follows ns) (merged layOut ns source) := by
  unfold Nodes.merged
  split
  · exact Ends.bind (hlayOut source h) fun ns' h' => .ok h'
  · have hitem (done : Nodes × List (Nat × Nat)) (item : Nat) (hdone : done.1.Follows ns) :
        Ends (· = .malformed) (·.1.Follows ns) (if done.1.isMapping item then do
          let ns ← layOut done.1 item
          return (ns, ns.entries item ++ done.2)
        else throw BuildDefect.malformed) := by
      split
      · exact Ends.bind (hlayOut item hdone.sound) fun ns' h' => .ok (h'.trans hdone)
      · exact .error rfl
    exact Ends.foldlM hitem (.refl h) _
  · exact .error rfl

/-- Laying out what a mapping merges leaves nodes sound, or finds one malformed. -/
theorem AreSound.layOut (h : ns.AreSound) (merges n : Nat) :
    Ends (· = .malformed) (·.Follows ns) (ns.layOut merges n) := by
  induction merges generalizing ns n with
  | zero => exact .ok (.refl h)
  | succ merges ih =>
    rw [Nodes.layOut]
    split
    · exact .ok (h.plainKeys _)
    · rename_i own merge source rest hspan
      have hn : ns.isMapping n = true := isMapping_of_entries fun hnone => by
        rw [hnone] at hspan
        cases hspan
      have htaken := h.putEntries hn (own ++ rest)
      refine Ends.bind (htaken.sound.merged (fun n h => ih h n) source) fun r hr => ?_
      refine Ends.bind (ih hr.sound n) fun ns' h' => .ok ?_
      have hfollows := h'.trans (hr.trans htaken)
      exact (hfollows.sound.putEntries (hfollows.mappings n hn) _).trans hfollows

/-! ### Values of scalars -/

lemma AreSound.scalar (h : ns.AreSound) (count n : Nat) :
    Ends (· = .malformed) (fun _ => True) (ns.scalar count n) := by
  have hsound := h n
  unfold Nodes.scalar
  split
  · rename_i htag
    cases hn : ns.node n with
    | scalar tag text =>
      have hntag : ns.tag n = tag := by rw [Nodes.tag, hn]; rfl
      rw [hn] at hsound
      simp only [textOf, isMapping, hn, hntag, Bool.and_false, Bool.false_eq_true, if_false]
      exact ends_scalarOf hsound
    | sequence tag items =>
      simp only [textOf, hn]
      exact .error rfl
    | mapping tag entries =>
      rw [Nodes.tag, hn] at htag
      rw [hn, Node.isSound, show isScalarTag tag = true from htag] at hsound
      cases hsound
  · exact .error rfl

end Nodes

/-! ### Filling -/

namespace Filler

/-- A step that leaves nodes sound, or finds one malformed. -/
abbrev Passes {α : Type} (m : Filler α) : Prop :=
  JsonSchema.Passes (·.nodes.AreSound) (· = .malformed) m

lemma passes_malformed {α : Type} : Passes (throw .malformed : Filler α) := .throw rfl

lemma passes_meet (n : Nat) : Passes (meet n) := by
  refine .getBind fun s hs => .ite (.ite ?_ ?_) ?_
  · exact .bind (.set hs) fun _ => .pure _
  · exact .pure _
  · exact .liftBind (hs.scalar s.count n) fun _ _ => .pure _

lemma passes_meetPair (n : Nat) : Passes (meetPair n) := by
  refine .getBind fun s hs => ?_
  split
  · exact .bind (passes_meet _) fun _ => .bind (passes_meet _) fun _ => .pure _
  · exact passes_malformed

lemma passes_meetEntry (e : Nat × Nat) : Passes (meetEntry e) :=
  .bind (passes_meet _) fun _ => .ite (.bind passes_malformed fun _ =>
    .bind (passes_meet _) fun _ => .pure _) (.bind (passes_meet _) fun _ => .pure _)

lemma passes_fill (n : Nat) : Passes (fill n) := by
  refine .getBind fun s hs => ?_
  split
  · exact .forM (fun _ => .bind (passes_meet _) fun _ => .pure _) _
  · exact .forM passes_meetPair _
  · exact .forM passes_meetPair _
  · exact .liftBind (hs.layOut _ n) fun ns hns => .bind (.set hns.sound) fun _ =>
      .forM passes_meetEntry _
  · exact .liftBind (hs.layOut _ n) fun ns hns => .bind (.set hns.sound) fun _ =>
      .forM passes_meetEntry _
  · exact passes_malformed

lemma passes_fillAll (fuel : Nat) : Passes (fillAll fuel) := by
  induction fuel with
  | zero => exact .pure _
  | succ fuel ih =>
    refine .getBind fun s hs => ?_
    split
    · exact .pure _
    · exact .bind (.update fun _ h => h) fun _ => .bind (passes_fill _) fun _ => ih

end Filler

/-- Sound nodes stand for something, or are malformed. -/
theorem Graph.ends_reading {g : Graph} (h : g.nodes.AreSound) :
    Ends (· = .malformed) (fun _ => True) g.reading := by
  have hfill : Ends (· = .malformed) (fun _ => True) g.fill :=
    Ends.bind (Passes.bind (Filler.passes_meet g.root)
      (fun _ => Filler.passes_fillAll (g.count + 1)) _ h) fun _ _ => .ok trivial
  refine Ends.bind hfill fun ns _ => ?_
  split
  · exact .ok trivial
  · exact .ok trivial

end JsonSchema.Yaml
