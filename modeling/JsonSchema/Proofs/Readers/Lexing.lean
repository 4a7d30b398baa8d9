import JsonSchema.Proofs.Readers.Plain

/-!
How the tokens of JSON are cut from a YAML text.

A run is followed from one token to the next: `Runs` relates two lexers of which the second is what
the run makes of the first. Main statements: one for each token of JSON, and one for a key together
with its colon.
-/

namespace JsonSchema.Yaml

namespace Lexer

/-! ### Runs -/

/-- The run goes on from one lexer to another, in no more turns than characters are passed. -/
def Runs (l l' : Lexer) : Prop :=
  ∃ n, n + l'.cursor.rest.length ≤ l.cursor.rest.length ∧ ∀ fuel, run (fuel + n) l = run fuel l'

lemma Runs.trans {l l' l'' : Lexer} (h : Runs l l') (h' : Runs l' l'') : Runs l l'' := by
  obtain ⟨n, hn, hrun⟩ := h
  obtain ⟨m, hm, hrun'⟩ := h'
  refine ⟨m + n, by omega, fun fuel => ?_⟩
  rw [← Nat.add_assoc, hrun, hrun']

/-- No block is open, and no key has to follow. -/
structure Calm (l : Lexer) : Prop where
  flow : 0 ≤ l.flow
  indent : l.indent = -1
  outer : l.outer = []
  keys : ∀ k ∈ l.keys, k.2.required = false

/-- What a run that started at another lexer makes of one that stands before a token, or at the end
of the text. -/
def turn (fuel : Nat) (start l : Lexer) : Lexer :=
  match l.cursor.peek? with
  | none =>
    match l.finish with
    | .ok l => l
    | .error d => start.breakOff d
  | some ch =>
    match l.token ch with
    | .ok l => run fuel l
    | .error d => start.breakOff d

/-- A lexer before a token or at the end of the text, and one before the blanks there. -/
structure Arrives (l l₁ : Lexer) (bs more : List Char) : Prop where
  calm : l₁.Calm
  before : l.cursor.rest = bs ++ more
  rest : l₁.cursor.rest = more
  slots : l₁.slots = l.slots
  flow : l₁.flow = l.flow
  allowed : l.isInFlow = true → l₁.keyAllowed = l.keyAllowed
  keys : l₁.keys = l.keys.filter fun k => !l₁.isStale k.2
  along : (∀ b ∈ bs, b = ' ') → Cursor.Along l.cursor l₁.cursor
  turn : ∀ fuel, run (fuel + 1) l = turn fuel l l₁

section

variable {l l₁ : Lexer} {bs more : List Char}

lemma Calm.unwind (h : l.Calm) (column : Int) : l.unwind column = l := by
  unfold Lexer.unwind
  split
  · rfl
  · rw [h.outer, closeBlocks]

/-- Every turn of a run starts before the next token. -/
theorem exists_arrives (h : l.Calm) (hbs : IsBlanks bs) (hmore : IsBehindBlanks more)
    (hrest : l.cursor.rest = bs ++ more) : ∃ l₁, Arrives l l₁ bs more := by
  obtain ⟨c, allowed, hskip, hc, hflow, halong⟩ := skipToToken_blanks hmore
    (l.cursor.rest.length + 1) bs l hbs hrest (by rw [hrest, List.length_append]; omega)
  let l₀ := { l with cursor := c, keyAllowed := allowed }
  let l₁ := { l₀ with keys := l.keys.filter fun k => !l₀.isStale k.2 }
  have hcalm : l₁.Calm :=
    ⟨h.flow, h.indent, h.outer, fun k hk => h.keys k (List.mem_filter.1 hk).1⟩
  have hdrop : l₀.dropStaleKeys = .ok l₁ := by
    refine if_neg ?_
    simp only [List.any_eq_true, Bool.and_eq_true, not_exists, not_and]
    intro k hk hrequired
    rw [h.keys k hk] at hrequired
    cases hrequired
  refine ⟨l₁, hcalm, hrest, hc, rfl, rfl, hflow, rfl, halong, fun fuel => ?_⟩
  rw [run, hskip]
  dsimp only
  rw [show dropStaleKeys { l with cursor := c, keyAllowed := allowed } = .ok l₁ from hdrop]
  dsimp only
  rw [hcalm.unwind]
  rfl

/-- A turn that cuts a token. -/
lemma Arrives.runs {l' : Lexer} {cs : List Char} {ch : Char} (h : Arrives l l₁ bs (ch :: cs))
    (htoken : l₁.token ch = .ok l') (hlength : l'.cursor.rest.length ≤ cs.length) : Runs l l' := by
  refine ⟨1, ?_, fun fuel => ?_⟩
  · rw [h.before, List.length_append, List.length_cons]
    omega
  · rw [h.turn, Lexer.turn, Cursor.peek?_cons h.rest]
    dsimp only
    rw [htoken]

/-! ### Possible keys -/

lemma Calm.dropKey (h : l.Calm) : l.dropKey = .ok l.forgetKey := by
  refine if_neg ?_
  simp only [possibleKey?, Option.any_map, Option.any_eq_true, not_exists, not_and]
  intro k hk
  have hrequired := h.keys k (List.mem_of_find?_eq_some hk)
  simp [hrequired]

lemma Calm.forgetKey (h : l.Calm) : l.forgetKey.Calm :=
  ⟨h.flow, h.indent, h.outer, fun k hk => h.keys k (List.mem_filter.1 hk).1⟩

/-- The key that may start at a place. -/
def keyHere (l : Lexer) : PossibleKey :=
  ⟨l.slots.size, false, l.cursor.index, l.cursor.line, l.cursor.column⟩

/-- Where a key may start it is remembered, as one that does not have to follow. -/
lemma Calm.saveKey (h : l.Calm) : ∃ keys, l.saveKey = .ok { l with keys := keys } ∧
    (∀ k ∈ keys, k.2.required = false) ∧
    (l.keyAllowed = true → keys.head? = some (l.flow, l.keyHere)) := by
  have hindent : (l.indent == (l.cursor.column : Int)) = false := by
    rw [h.indent]
    exact beq_false_of_ne (by omega)
  unfold Lexer.saveKey
  by_cases hallowed : l.keyAllowed = true
  · rw [if_pos hallowed, h.dropKey]
    refine ⟨(l.flow, l.keyHere) :: l.forgetKey.keys, ?_, ?_, fun _ => rfl⟩
    · simp only [hindent, Bool.and_false]
      rfl
    · exact List.forall_mem_cons.2 ⟨rfl, h.forgetKey.keys⟩
  · rw [if_neg hallowed]
    exact ⟨l.keys, rfl, h.keys, fun hyes => absurd hyes hallowed⟩

end

/-! ### Which token stands where -/

section

variable {l : Lexer} {cs : List Char} {ch : Char}

/-- No directive and no mark of a document starts with a token of JSON. -/
lemma not_mark (h : l.cursor.rest = ch :: cs) (hstart : startsToken ch = true)
    (hminus : ch = '-' → ∀ d ∈ cs.head?, d ≠ '-') :
    (ch == '%') = false ∧ l.cursor.isMarker '-' = false ∧ l.cursor.isMarker '.' = false := by
  refine ⟨beq_false_of_ne (ne_of_true_of_false hstart (by decide)), ?_, ?_⟩
  · unfold Cursor.isMarker
    rw [h]
    split
    · rename_i x y z rest heq
      obtain ⟨rfl, rfl⟩ := List.cons.inj heq
      by_cases hch : ch = '-'
      · simp [hch, hminus hch y rfl]
      · simp [hch]
    · rfl
  · unfold Cursor.isMarker
    rw [h]
    split
    · rename_i x y z rest heq
      obtain ⟨rfl, rfl⟩ := List.cons.inj heq
      have hpoint : ch ≠ '.' := ne_of_true_of_false hstart (by decide)
      simp [hpoint]
    · rfl

/-- The signs that mean the same wherever they stand, and what they do. -/
def signs (l : Lexer) : List (Char × Except Defect Lexer) := [
  ('[', l.flowStart .flowSequenceStart), ('\x7b', l.flowStart .flowMappingStart),
  (']', l.flowEnd .flowSequenceEnd), ('\x7d', l.flowEnd .flowMappingEnd),
  (',', l.flowEntry), ('"', l.quoted '"')]

lemma token_of_mem_signs {x : Except Defect Lexer} (hx : (ch, x) ∈ l.signs)
    (h : l.cursor.rest = ch :: cs) : l.token ch = x := by
  simp only [signs, List.mem_cons, Prod.mk.injEq, List.not_mem_nil, or_false] at hx
  rcases hx with ⟨rfl, rfl⟩ | ⟨rfl, rfl⟩ | ⟨rfl, rfl⟩ | ⟨rfl, rfl⟩ | ⟨rfl, rfl⟩ | ⟨rfl, rfl⟩ <;>
  · obtain ⟨hpercent, hminus, hpoint⟩ := not_mark h rfl nofun
    simp only [Lexer.token, hpercent, hminus, hpoint, Bool.and_false, Bool.false_eq_true, if_false]

lemma token_colon (h : l.cursor.rest = ':' :: cs) (hflow : l.isInFlow = true) :
    l.token ':' = l.valueSign := by
  obtain ⟨hpercent, hminus, hpoint⟩ := not_mark h rfl nofun
  simp only [Lexer.token, hpercent, hminus, hpoint, Bool.and_false, Bool.false_eq_true, if_false,
    hflow, Bool.true_or]
  rfl

lemma isGap_of_isAlphanum (h : ch.isAlphanum = true) : isGap (some ch) = false := by
  have hbreak := isBreak_of_startsToken (c := ch) (by simp [startsToken, h])
  rw [isGap, hbreak, beq_false_of_ne (ne_of_true_of_false h (d := ' ') (by decide)),
    beq_false_of_ne (ne_of_true_of_false h (d := '\t') (by decide))]
  rfl

/-- A plain scalar may start with a letter or a digit. -/
lemma startsPlain_of_isAlphanum (h : ch.isAlphanum = true) (after : Option Char) :
    l.startsPlain ch after = true := by
  have hspecial : ("-?:,[]\x7b\x7d#&*!|>'\"%@".toList ++ ['\x60']).contains ch = false :=
    contains_eq_false_of_all h (by decide)
  simp only [Lexer.startsPlain, isGap_of_isAlphanum h, hspecial, Bool.not_false, Bool.and_self,
    Bool.true_or]

lemma token_plain {w : List Char} (hw : PlainStart (ch :: w)) (h : l.cursor.rest = ch :: w ++ cs) :
    l.token ch = l.plain := by
  cases hw with
  | alphanum hch =>
    have hstart : startsToken ch = true := by simp [startsToken, hch]
    have hne {d : Char} (hd : d.isAlphanum = false) : (ch == d) = false :=
      beq_false_of_ne (ne_of_true_of_false hch hd)
    obtain ⟨hpercent, hminus, hpoint⟩ := not_mark h hstart fun hm =>
      absurd hm (ne_of_true_of_false hch (by decide))
    simp only [Lexer.token, hpercent, hminus, hpoint, Bool.and_false, Bool.false_eq_true, if_false]
    split
    all_goals try exact absurd hch (by decide)
    simp only [hne (d := '-') (by decide), hne (d := '?') (by decide), hne (d := ':') (by decide),
      hne (d := '|') (by decide), hne (d := '>') (by decide), startsPlain_of_isAlphanum hch,
      Bool.false_and, Bool.false_eq_true, if_false, if_true]
  | @minus d hd =>
    have halphanum := of_isDigit (p := Char.isAlphanum) (by decide) hd
    obtain ⟨hpercent, hminus, hpoint⟩ := not_mark h rfl fun _ x hx => by
      obtain rfl := Option.some.inj hx
      exact ne_of_true_of_false halphanum (by decide)
    have hgap : isGap (l.cursor.peekAt? 1) = false := by
      have hpeek : l.cursor.peekAt? 1 = some d := by simp [Cursor.peekAt?, h]
      rw [hpeek, isGap_of_isAlphanum halphanum]
    have hstarts : l.startsPlain '-' (l.cursor.peekAt? 1) = true := by
      simp [Lexer.startsPlain, hgap]
    simp only [Lexer.token, hpercent, hminus, hpoint, hgap, Bool.and_false, Bool.false_eq_true,
      if_false]
    simp [hstarts]

end

/-! ### What tokens do -/

/-- A lexer behind a token with no sign before it, and one before the token. -/
structure Passes (l l' : Lexer) (t : Token) (rest : List Char) : Prop where
  calm : l'.Calm
  rest : l'.cursor.rest = rest
  slots : l'.slots.toList = l.slots.toList ++ [([], t)]

section

variable {l : Lexer} {cs : List Char} {ch : Char}

lemma Calm.flowStart (h : l.Calm) (hrest : l.cursor.rest = ch :: cs) (t : Token) :
    ∃ l', l.flowStart t = .ok l' ∧ Passes l l' t cs ∧ l'.flow = l.flow + 1 ∧
      l'.keyAllowed = true := by
  obtain ⟨keys, hsave, hkeys, -⟩ := h.saveKey
  rw [Lexer.flowStart, hsave]
  refine ⟨_, rfl, ⟨⟨?_, h.indent, h.outer, hkeys⟩, Cursor.next_rest hrest, ?_⟩, rfl, rfl⟩
  · have := h.flow
    show 0 ≤ l.flow + 1
    omega
  · simp [sign, at_, emit]

lemma Calm.flowEnd (h : l.Calm) (hflow : l.isInFlow = true) (hrest : l.cursor.rest = ch :: cs)
    (t : Token) : ∃ l', l.flowEnd t = .ok l' ∧ Passes l l' t cs ∧
      l'.flow = l.flow - 1 := by
  rw [Lexer.flowEnd, h.dropKey]
  refine ⟨_, rfl, ⟨⟨?_, h.indent, h.outer, h.forgetKey.keys⟩, Cursor.next_rest hrest, ?_⟩, rfl⟩
  · have := h.flow
    have hne : l.flow ≠ 0 := by simpa [isInFlow] using hflow
    show 0 ≤ l.flow - 1
    omega
  · simp [sign, at_, emit, Lexer.forgetKey]

lemma Calm.flowEntry (h : l.Calm) (hrest : l.cursor.rest = ch :: cs) :
    ∃ l', l.flowEntry = .ok l' ∧ Passes l l' .flowEntry cs ∧ l'.flow = l.flow ∧
      l'.keyAllowed = true := by
  rw [Lexer.flowEntry, h.dropKey]
  refine ⟨_, rfl, ⟨⟨h.flow, h.indent, h.outer, h.forgetKey.keys⟩, Cursor.next_rest hrest, ?_⟩,
    rfl, rfl⟩
  simp [sign, at_, emit, Lexer.forgetKey]

/-- A string of JSON; where a key may start, it may be one. -/
lemma Calm.quoted {body : List Point} {rest : List Char} (h : l.Calm)
    (hrest : l.cursor.rest = '"' :: cs)
    (hreads : Json.StringReads cs body rest)
    (hcs : ∀ ch ∈ cs, 32 ≤ ch.toNat → isBreak ch = false)
    (hhalves : Json.hasHalves cs = false) : ∃ l', l.quoted '"' = .ok l' ∧
      Passes l l' (.scalar (.ofPoints body) false) rest ∧ l'.flow = l.flow ∧
      Cursor.Along l.cursor l'.cursor ∧
      (l.keyAllowed = true → l'.keys.head? = some (l.flow, l.keyHere)) := by
  obtain ⟨keys, hsave, hkeys, hkey⟩ := h.saveKey
  have hnext := Cursor.next_rest hrest
  obtain ⟨c, hread, hc, halong⟩ := quotedReads_of_stringReads hreads hcs hhalves
    (l.cursor.next.rest.length + 1) l.cursor.next hnext (by rw [hnext]; omega)
  refine ⟨{ (l.at_ c).emit (.scalar (.ofPoints body) false) with
    keys := keys, keyAllowed := false }, ?_, ⟨⟨h.flow, h.indent, h.outer, hkeys⟩, hc, ?_⟩, rfl,
    (Cursor.along_next hrest rfl).trans halong, hkey⟩
  · rw [Lexer.quoted, hsave]
    show Lexer.content _ ((quotedText '"' (l.cursor.next.rest.length + 1) l.cursor.next).map _) = _
    rw [hread]
    rfl
  · simp [at_, emit]

lemma Calm.plain {w bs more : List Char} {v : Value} (h : l.Calm) (hw : PlainWord w v)
    (hbs : IsBlanks bs) (hmore : IsBehindWord l.isInFlow more)
    (hrest : l.cursor.rest = w ++ (bs ++ more)) : ∃ l', l.plain = .ok l' ∧
      Passes l l' (.scalar (String.ofList w) true) more ∧ l'.flow = l.flow := by
  obtain ⟨keys, hsave, hkeys, -⟩ := h.saveKey
  obtain ⟨crossed, c, hread, hc⟩ := plainText_word hw hbs hmore hrest (l.indent + 1)
    l.cursor.rest.length
  refine ⟨{ (l.at_ c).emit (.scalar (String.ofList w) true) with
    keys := keys, keyAllowed := crossed }, ?_, ⟨⟨h.flow, h.indent, h.outer, hkeys⟩, hc, ?_⟩, rfl⟩
  · rw [Lexer.plain, hsave]
    show Except.ok _ = _
    rw [show plainText (isInFlow { l with keys := keys }) (l.indent + 1)
      (l.cursor.rest.length + 1) [] false l.cursor = ⟨w, crossed, c⟩ from hread]
    rfl
  · simp [at_, emit]

/-- A colon makes a key of what stands before it on the line. -/
lemma Calm.valueSign {name : Token} {slots : List Slot} {k : PossibleKey} (h : l.Calm)
    (hflow : l.isInFlow = true) (hrest : l.cursor.rest = ch :: cs)
    (hslots : l.slots.toList = slots ++ [([], name)]) (hk : l.keys.head? = some (l.flow, k))
    (htoken : k.token = slots.length) : ∃ l', l.valueSign = .ok l' ∧ l'.Calm ∧
      l'.cursor.rest = cs ∧ l'.slots.toList = slots ++ [([.key], name), ([], .value)] ∧
      l'.flow = l.flow := by
  have hpossible : l.possibleKey? = some k := by
    obtain ⟨keys, hkeys⟩ : ∃ keys, l.keys = (l.flow, k) :: keys := by
      cases hl : l.keys with
      | nil => rw [hl] at hk; cases hk
      | cons k' keys =>
        rw [hl] at hk
        exact ⟨keys, by rw [Option.some.inj hk]⟩
    simp [possibleKey?, hkeys]
  have hmodify : (l.slots.modify k.token fun s => ([.key], s.2)).toList =
      slots ++ [([.key], name)] := by
    rw [Array.toList_modify, hslots, htoken]
    simp [List.modify_eq_take_drop]
  have hin : l.forgetKey.isInFlow = true := hflow
  rw [Lexer.valueSign, hpossible]
  simp only [hin, if_true]
  refine ⟨_, rfl, ⟨h.flow, h.indent, h.outer, h.forgetKey.keys⟩, Cursor.next_rest hrest, ?_, rfl⟩
  simp only [sign, at_, emit, Array.toList_push]
  rw [show l.forgetKey.slots = l.slots from rfl, hmodify]
  simp

end

/-! ### Tokens behind blanks -/

def tokens (l : Lexer) : List Token := l.slots.toList.flatMap fun s => s.1 ++ [s.2]

/-- The run cuts some tokens on its way from one lexer to another. -/
structure Cuts (l l' : Lexer) (ts : List Token) : Prop where
  calm : l'.Calm
  tokens : l'.tokens = l.tokens ++ ts
  runs : Runs l l'

lemma Cuts.trans {l l' l'' : Lexer} {ts us : List Token} (h : Cuts l l' ts)
    (h' : Cuts l' l'' us) : Cuts l l'' (ts ++ us) :=
  ⟨h'.calm, by rw [h'.tokens, h.tokens, List.append_assoc], h.runs.trans h'.runs⟩

section

variable {l : Lexer} {bs cs : List Char} {ch : Char}

lemma Arrives.cuts {l₁ l' : Lexer} {t : Token} {rest : List Char}
    (h : Arrives l l₁ bs (ch :: cs)) (htoken : l₁.token ch = .ok l')
    (hpasses : Passes l₁ l' t rest) (hlength : rest.length ≤ cs.length) : Cuts l l' [t] :=
  ⟨hpasses.calm, by rw [tokens, tokens, hpasses.slots, h.slots, List.flatMap_append]; rfl,
    h.runs htoken (by rw [hpasses.rest]; exact hlength)⟩

lemma isInFlow_congr {l' : Lexer} (h : l'.flow = l.flow) : l'.isInFlow = l.isInFlow := by
  rw [isInFlow, isInFlow, h]

variable (h : l.Calm) (hbs : IsBlanks bs) (hrest : l.cursor.rest = bs ++ ch :: cs)

include h hbs hrest

lemma arrives_sign (hch : startsToken ch = true) : ∃ l₁, Arrives l l₁ bs (ch :: cs) :=
  exists_arrives h hbs (by rintro _ ⟨⟩; exact hch) hrest

/-- The start of a collection. -/
theorem exists_open {t : Token}
    (ht : ch = '[' ∧ t = .flowSequenceStart ∨ ch = '\x7b' ∧ t = .flowMappingStart) :
    ∃ l', Cuts l l' [t] ∧ l'.cursor.rest = cs ∧ l'.flow = l.flow + 1 ∧
      l'.keyAllowed = true := by
  obtain ⟨l₁, harrives⟩ := arrives_sign h hbs hrest (by rcases ht with ⟨rfl, -⟩ | ⟨rfl, -⟩ <;> rfl)
  obtain ⟨l', hread, hpasses, hflow, hallowed⟩ := harrives.calm.flowStart harrives.rest t
  have htoken : l₁.token ch = .ok l' := by
    rw [← hread]
    rcases ht with ⟨rfl, rfl⟩ | ⟨rfl, rfl⟩
    · exact token_of_mem_signs (by simp [signs]) harrives.rest
    · exact token_of_mem_signs (by simp [signs]) harrives.rest
  exact ⟨l', harrives.cuts htoken hpasses le_rfl, hpasses.rest, by rw [hflow, harrives.flow],
    hallowed⟩

/-- The end of a collection. -/
theorem exists_close {t : Token} (hflow : l.isInFlow = true)
    (ht : ch = ']' ∧ t = .flowSequenceEnd ∨ ch = '\x7d' ∧ t = .flowMappingEnd) :
    ∃ l', Cuts l l' [t] ∧ l'.cursor.rest = cs ∧ l'.flow = l.flow - 1 := by
  obtain ⟨l₁, harrives⟩ := arrives_sign h hbs hrest (by rcases ht with ⟨rfl, -⟩ | ⟨rfl, -⟩ <;> rfl)
  obtain ⟨l', hread, hpasses, hflow'⟩ := harrives.calm.flowEnd
    ((isInFlow_congr harrives.flow).trans hflow) harrives.rest t
  have htoken : l₁.token ch = .ok l' := by
    rw [← hread]
    rcases ht with ⟨rfl, rfl⟩ | ⟨rfl, rfl⟩
    · exact token_of_mem_signs (by simp [signs]) harrives.rest
    · exact token_of_mem_signs (by simp [signs]) harrives.rest
  exact ⟨l', harrives.cuts htoken hpasses le_rfl, hpasses.rest, by rw [hflow', harrives.flow]⟩

end

/-- On one line, and not too far away, a possible key stays possible. -/
lemma isStale_of_along {l l' : Lexer} (h : Cursor.Along l.cursor l'.cursor)
    (hlimit : l.cursor.rest.length ≤ l'.cursor.rest.length + keyLimit) :
    l'.isStale l.keyHere = false := by
  have hindex := h.index
  have hnear : ¬keyLimit < l'.cursor.index - l.keyHere.index := by
    show ¬keyLimit < l'.cursor.index - l.cursor.index
    omega
  have hline : l.keyHere.line = l'.cursor.line := h.line.symm
  simp [isStale, hline, hnear]

section

variable {l : Lexer} {bs cs : List Char} (h : l.Calm) (hbs : IsBlanks bs)

include h hbs

/-- The comma behind an item. -/
theorem exists_comma (hrest : l.cursor.rest = bs ++ ',' :: cs) :
    ∃ l', Cuts l l' [.flowEntry] ∧ l'.cursor.rest = cs ∧ l'.flow = l.flow ∧
      l'.keyAllowed = true := by
  obtain ⟨l₁, harrives⟩ := arrives_sign h hbs hrest rfl
  obtain ⟨l', hread, hpasses, hflow, hallowed⟩ := harrives.calm.flowEntry harrives.rest
  have htoken : l₁.token ',' = .ok l' := by
    rw [← hread]
    exact token_of_mem_signs (by simp [signs]) harrives.rest
  exact ⟨l', harrives.cuts htoken hpasses le_rfl, hpasses.rest, by rw [hflow, harrives.flow],
    hallowed⟩

/-- A string that is a value. -/
theorem exists_string {body : List Point} {rest : List Char}
    (hrest : l.cursor.rest = bs ++ '"' :: cs)
    (hreads : Json.StringReads cs body rest)
    (hcs : ∀ ch ∈ cs, 32 ≤ ch.toNat → isBreak ch = false) (hhalves : Json.hasHalves cs = false) :
    ∃ l', Cuts l l' [.scalar (.ofPoints body) false] ∧ l'.cursor.rest = rest ∧
      l'.flow = l.flow := by
  obtain ⟨l₁, harrives⟩ := arrives_sign h hbs hrest rfl
  obtain ⟨l', hread, hpasses, hflow, -⟩ := harrives.calm.quoted harrives.rest hreads hcs hhalves
  have htoken : l₁.token '"' = .ok l' := by
    rw [← hread]
    exact token_of_mem_signs (by simp [signs]) harrives.rest
  exact ⟨l', harrives.cuts htoken hpasses hreads.length_le, hpasses.rest,
    by rw [hflow, harrives.flow]⟩

/-- A word or a number. -/
theorem exists_word {w bs' more : List Char} {v : Value} (hw : PlainWord w v)
    (hrest : l.cursor.rest = bs ++ (w ++ (bs' ++ more))) (hbs' : IsBlanks bs')
    (hmore : IsBehindWord l.isInFlow more) :
    ∃ l', Cuts l l' [.scalar (String.ofList w) true] ∧ l'.cursor.rest = more ∧
      l'.flow = l.flow := by
  obtain ⟨ch, w', rfl, hch⟩ : ∃ ch w', w = ch :: w' ∧ startsToken ch = true := by
    cases hw.start with
    | alphanum hch => exact ⟨_, _, rfl, by simp [startsToken, hch]⟩
    | minus => exact ⟨_, _, rfl, rfl⟩
  obtain ⟨l₁, harrives⟩ := arrives_sign h hbs hrest hch
  obtain ⟨l', hread, hpasses, hflow⟩ := harrives.calm.plain hw hbs'
    (by rwa [isInFlow_congr harrives.flow]) harrives.rest
  have htoken : l₁.token ch = .ok l' := by
    rw [← hread]
    exact token_plain hw.start harrives.rest
  refine ⟨l', harrives.cuts htoken hpasses ?_, hpasses.rest, by rw [hflow, harrives.flow]⟩
  show more.length ≤ (w' ++ (bs' ++ more)).length
  simp only [List.length_append]
  omega

/-- A string that is a key, with the colon behind it on the same line and not too far away. -/
theorem exists_key {body : List Point} {spaces value : List Char} (hflow : l.isInFlow = true)
    (hallowed : l.keyAllowed = true) (hrest : l.cursor.rest = bs ++ '"' :: cs)
    (hreads : Json.StringReads cs body (spaces ++ ':' :: value))
    (hcs : ∀ ch ∈ cs, 32 ≤ ch.toNat → isBreak ch = false) (hhalves : Json.hasHalves cs = false)
    (hspaces : ∀ b ∈ spaces, b = ' ')
    (hlimit : ('"' :: cs).length ≤ (':' :: value).length + keyLimit) :
    ∃ l', Cuts l l' [.key, .scalar (.ofPoints body) false, .value] ∧
      l'.cursor.rest = value ∧ l'.flow = l.flow := by
  obtain ⟨l₁, harrives⟩ := arrives_sign h hbs hrest rfl
  obtain ⟨l₂, hread, hpasses, hflow₂, halong, hkey⟩ :=
    harrives.calm.quoted harrives.rest hreads hcs hhalves
  have hstring : Runs l l₂ := by
    refine harrives.runs ?_ (by rw [hpasses.rest]; exact hreads.length_le)
    rw [← hread]
    exact token_of_mem_signs (by simp [signs]) harrives.rest
  have hblanks : IsBlanks spaces := fun b hb => .inl (hspaces b hb)
  obtain ⟨l₃, harrives'⟩ := arrives_sign hpasses.calm hblanks hpasses.rest rfl
  -- the string is still a possible key at the colon
  have hfresh : l₃.isStale l₁.keyHere = false :=
    isStale_of_along (halong.trans (harrives'.along hspaces))
      (by rwa [harrives.rest, harrives'.rest])
  have hfirst : l₃.keys.head? = some (l₃.flow, l₁.keyHere) := by
    have hallowed₁ : l₁.keyAllowed = true := by rw [harrives.allowed hflow, hallowed]
    obtain ⟨keys, hkeys⟩ := List.head?_eq_some_iff.1 (hkey hallowed₁)
    rw [harrives'.keys, hkeys, List.filter_cons_of_pos (by simp [hfresh]), harrives'.flow, hflow₂]
    rfl
  have hslots : l₃.slots.toList = l.slots.toList ++ [([], .scalar (.ofPoints body) false)] := by
    rw [harrives'.slots, hpasses.slots, harrives.slots]
  have hin : l₃.isInFlow = true := by
    rw [isInFlow_congr harrives'.flow, isInFlow_congr hflow₂, isInFlow_congr harrives.flow, hflow]
  obtain ⟨l', hsign, hcalm, hrest', hslots', hflow'⟩ := harrives'.calm.valueSign hin harrives'.rest
    hslots hfirst (by rw [keyHere, harrives.slots]; simp)
  have hcolon : Runs l₂ l' := by
    refine harrives'.runs ?_ (by rw [hrest'])
    rw [token_colon harrives'.rest hin, hsign]
  have htokens : l'.tokens = l.tokens ++ [.key, .scalar (.ofPoints body) false, .value] := by
    rw [tokens, tokens, hslots', List.flatMap_append]
    rfl
  exact ⟨l', ⟨hcalm, htokens, hstring.trans hcolon⟩, hrest',
    by rw [hflow', harrives'.flow, hflow₂, harrives.flow]⟩

/-- Behind the last token nothing is cut. -/
theorem slots_run (hrest : l.cursor.rest = bs) (fuel : Nat) :
    (run (fuel + 1) l).slots = l.slots := by
  obtain ⟨l₁, harrives⟩ := exists_arrives h hbs (by simp [IsBehindBlanks])
    (hrest.trans (List.append_nil bs).symm)
  have hpeek : l₁.cursor.peek? = none := by simp [Cursor.peek?, harrives.rest]
  have hfinish : l₁.finish = .ok l₁.forgetKey := by
    rw [finish, harrives.calm.unwind, harrives.calm.dropKey]
  rw [harrives.turn, Lexer.turn, hpeek]
  dsimp only
  rw [hfinish]
  exact harrives.slots

end

end Lexer

end JsonSchema.Yaml
