import JsonSchema.Document.Load
import JsonSchema.Proofs.Files
import JsonSchema.Proofs.Readers.Lexing
import JsonSchema.Registry

/-!
JSON that YAML reads as the same.

The reader of JSON and the lexer of YAML go through a shared text side by side. What the first reads
as a value, as elements or as members, the second cuts into the tokens of a document that means the
same, and both stand at the same place behind it; these three statements are proved together, by
induction on the depth that is left. Main statement: a shared text from a JSON file has the same
value wherever it is read.
-/

namespace JsonSchema

open Yaml

/-! ### Places between tokens -/

/-- A lexer that has reached a place in a shared text, blanks aside. -/
structure StandsAt (l : Lexer) (cs : List Char) : Prop where
  calm : l.Calm
  shared : Json.isShared cs = true
  rest : ∃ bs, IsBlanks bs ∧ l.cursor.rest = bs ++ Json.skipBlanks cs

/-- From one lexer to another some tokens are cut, up to a place in a shared text. -/
structure CutsTo (l l' : Lexer) (ts : List Token) (rest : List Char) : Prop where
  cuts : Lexer.Cuts l l' ts
  reaches : StandsAt l' rest

lemma CutsTo.trans {l l' l'' : Lexer} {ts us : List Token} {rest rest' : List Char}
    (h : CutsTo l l' ts rest) (h' : CutsTo l' l'' us rest') : CutsTo l l'' (ts ++ us) rest' :=
  ⟨h.cuts.trans h'.cuts, h'.reaches⟩

lemma standsAt_of_rest {l : Lexer} {cs : List Char} (hcalm : l.Calm)
    (hshared : Json.isShared cs = true) (hrest : l.cursor.rest = cs) : StandsAt l cs := by
  obtain ⟨bs, hbs, hcs⟩ := exists_blanks hshared
  exact ⟨hcalm, hshared, bs, hbs, hrest.trans hcs⟩

lemma StandsAt.skipBlanks {l : Lexer} {cs : List Char} (h : StandsAt l cs) :
    StandsAt l (Json.skipBlanks cs) :=
  ⟨h.calm, Json.isShared_skipBlanks h.shared, by rw [Json.skipBlanks_skipBlanks]; exact h.rest⟩

namespace Json

section

variable {c : Char} {cs rest : List Char}

/-- Behind a word blanks stand, or a sign. -/
lemma isSeparator_head {inFlow : Bool} (h : IsBehindWord inFlow (skipBlanks rest)) :
    ∀ c ∈ rest.head?, isSeparator c = true := by
  intro c hc
  obtain ⟨cs, rfl⟩ := List.head?_eq_some_iff.1 hc
  by_cases hblank : isBlank c = true
  · simp [isSeparator, hblank]
  · rw [skipBlanks_cons (by simpa using hblank)] at h
    rcases (h c rfl).2 with rfl | rfl | rfl <;> decide

/-- Line ends of YAML stand in a shared text as control characters only. -/
lemma isBreak_of_isShared (h : isShared cs = true) :
    ∀ c ∈ cs, 32 ≤ c.toNat → isBreak c = false := by
  intro c hc hleast
  have hchar := (isShared_iff.1 h).1 c hc
  rw [← Bool.not_eq_true]
  intro hbreak
  simp only [isSharedChar, hbreak, Bool.not_true, Bool.false_or, Bool.and_eq_true, Bool.or_eq_true,
    beq_iff_eq] at hchar
  rcases hchar.2 with rfl | rfl <;> exact absurd hleast (by decide)

end

/-! ### Values, elements and members -/

/-- The value of JSON text is cut into the tokens of a document with this value. -/
def ReadsValue (fuel : Nat) : Prop :=
  ∀ cs v rest, value fuel cs = .ok (v, rest) → ∀ l : Lexer, StandsAt l cs →
    IsBehindWord l.isInFlow (skipBlanks rest) →
    ∃ (t : Flow) (l' : Lexer), t.Means v ∧ CutsTo l l' t.tokens rest ∧ l'.flow = l.flow

def ReadsElements (fuel : Nat) : Prop :=
  ∀ cs vs rest, elements fuel cs = .ok (vs, rest) → ∀ l : Lexer, StandsAt l cs →
    l.isInFlow = true →
    ∃ (t : Flow) (ts : List Flow) (l' : Lexer), List.Forall₂ Flow.Means (t :: ts) vs ∧
      CutsTo l l' (Flow.itemTokens true (t :: ts)) rest ∧ l'.flow = l.flow - 1

def ReadsMembers (fuel : Nat) : Prop :=
  ∀ cs done es rest, members fuel cs done = .ok (es, rest) → ∀ l : Lexer, StandsAt l cs →
    l.isInFlow = true → l.keyAllowed = true →
    ∃ (e : Text × Flow) (entries : List (Text × Flow)) (pairs : List (Value × Value))
      (l' : Lexer), List.Forall₂ Flow.EntryMeans (e :: entries) pairs ∧
      es = pairs.foldl (fun done p => done.insert p.1 p.2) done ∧
      CutsTo l l' (Flow.entryTokens true (e :: entries)) rest ∧ l'.flow = l.flow - 1

section

variable {fuel : Nat} {cs rest : List Char} {l : Lexer}

lemma exists_flow_string {body : List Point} (hreads : StringReads cs body rest)
    (hl : StandsAt l ('"' :: cs)) :
    ∃ (t : Flow) (l' : Lexer), t.Means (.string (.ofPoints body)) ∧
      CutsTo l l' t.tokens rest ∧ l'.flow = l.flow := by
  obtain ⟨hcalm, hshared, bs, hbs, hrest⟩ := hl
  obtain ⟨hstring, hshared'⟩ := isShared_string hshared hreads
  simp only [isSharedString, List.tail_cons, Bool.and_eq_true, Bool.not_eq_true'] at hstring
  obtain ⟨l', hcuts, hrest', hflow⟩ := Lexer.exists_string hcalm hbs hrest hreads
    (fun c hc => isBreak_of_isShared hshared c (List.mem_cons_of_mem _ hc)) hstring.1
  exact ⟨.scalar (.ofPoints body) false, l', Flow.means_string _,
    ⟨hcuts, standsAt_of_rest hcuts.calm hshared' hrest'⟩, hflow⟩

lemma exists_flow_word {v : Value} (h : wordOrNumber cs = .ok (v, rest)) (hl : StandsAt l cs)
    (hbehind : IsBehindWord l.isInFlow (skipBlanks rest)) :
    ∃ (t : Flow) (l' : Lexer), t.Means v ∧ CutsTo l l' t.tokens rest ∧ l'.flow = l.flow := by
  obtain ⟨hcalm, hshared, bs, hbs, hrest⟩ := hl
  obtain ⟨c, cs', rfl, hc⟩ := exists_isWordChar h
  obtain ⟨hseparator, hquote⟩ := not_isSeparator hc
  obtain ⟨hword, hnumber⟩ := isShared_start hshared hseparator hquote
  obtain ⟨w, hcs, hw⟩ := wordOrNumber_eq_ok h hword hnumber
  have hblank : isBlank c = false := by
    rw [isSeparator, Bool.or_eq_false_iff] at hseparator
    exact hseparator.1
  rw [skipBlanks_cons hblank, hcs] at hrest
  rw [hcs] at hshared
  have hshared' : isShared rest = true :=
    isShared_word hshared (fun d hd => not_isSeparator (hw.chars d hd)) (isSeparator_head hbehind)
  obtain ⟨bs', hbs', hrest'⟩ := exists_blanks hshared'
  rw [hrest'] at hrest
  obtain ⟨l', hcuts, hbehind', hflow⟩ := Lexer.exists_word hcalm hbs hw hrest hbs' hbehind
  exact ⟨.scalar (String.ofList w) true, l', hw.means,
    ⟨hcuts, hcuts.calm, hshared', [], List.forall_mem_nil _, hbehind'⟩, hflow⟩

end

section

variable {cs rest : List Char} {l : Lexer}

/-- The start of a collection. -/
lemma exists_flow_open {ch : Char} {t : Token} (hl : StandsAt l (ch :: cs))
    (ht : ch = '[' ∧ t = .flowSequenceStart ∨ ch = '\x7b' ∧ t = .flowMappingStart) :
    ∃ l', CutsTo l l' [t] cs ∧ l'.flow = l.flow + 1 ∧ l'.isInFlow = true ∧
      l'.keyAllowed = true := by
  obtain ⟨hcalm, hshared, bs, hbs, hrest⟩ := hl
  have hch : isSeparator ch = true ∧ isBlank ch = false := by
    rcases ht with ⟨rfl, -⟩ | ⟨rfl, -⟩ <;> exact ⟨by decide, by decide⟩
  rw [skipBlanks_cons hch.2] at hrest
  obtain ⟨l', hcuts, hrest', hflow, hallowed⟩ := Lexer.exists_open hcalm hbs hrest ht
  have hshared' := isShared_separator hshared hch.1
  refine ⟨l', ⟨hcuts, standsAt_of_rest hcuts.calm hshared' hrest'⟩, hflow, ?_, hallowed⟩
  have hleast := hcalm.flow
  have hne : l'.flow ≠ 0 := by omega
  simpa [Lexer.isInFlow] using hne

/-- The end of a collection. -/
lemma exists_flow_close {ch : Char} {t : Token} (hl : StandsAt l cs)
    (hflow : l.isInFlow = true) (hcs : skipBlanks cs = ch :: rest)
    (ht : ch = ']' ∧ t = .flowSequenceEnd ∨ ch = '\x7d' ∧ t = .flowMappingEnd) :
    ∃ l', CutsTo l l' [t] rest ∧ l'.flow = l.flow - 1 := by
  obtain ⟨hcalm, hshared, bs, hbs, hrest⟩ := hl
  have hch : isSeparator ch = true := by rcases ht with ⟨rfl, -⟩ | ⟨rfl, -⟩ <;> decide
  rw [hcs] at hrest
  obtain ⟨l', hcuts, hrest', hflow'⟩ := Lexer.exists_close hcalm hbs hrest hflow ht
  have hshared' := isShared_separator (hcs ▸ isShared_skipBlanks hshared) hch
  exact ⟨l', ⟨hcuts, standsAt_of_rest hcuts.calm hshared' hrest'⟩, hflow'⟩

/-- The comma behind an item. -/
lemma exists_flow_comma (hl : StandsAt l cs) (hcs : skipBlanks cs = ',' :: rest) :
    ∃ l', CutsTo l l' [.flowEntry] (skipBlanks rest) ∧ l'.flow = l.flow ∧
      l'.keyAllowed = true := by
  obtain ⟨hcalm, hshared, bs, hbs, hrest⟩ := hl
  rw [hcs] at hrest
  obtain ⟨l', hcuts, hrest', hflow, hallowed⟩ := Lexer.exists_comma hcalm hbs hrest
  have hshared' := isShared_separator (hcs ▸ isShared_skipBlanks hshared) (by decide)
  exact ⟨l', ⟨hcuts, (standsAt_of_rest hcuts.calm hshared' hrest').skipBlanks⟩, hflow, hallowed⟩

lemma isBehindWord_of_sign {ch : Char} {inFlow : Bool} (hflow : inFlow = true)
    (hcs : skipBlanks cs = ch :: rest) (hch : ch = ',' ∨ ch = ']' ∨ ch = '\x7d') :
    IsBehindWord inFlow (skipBlanks cs) := by
  rw [hcs]
  rintro _ ⟨⟩
  exact ⟨hflow, hch⟩

/-- The key of a member, with its colon. -/
lemma exists_flow_key {body : List Point} {behind : List Char} (hl : StandsAt l ('"' :: cs))
    (hflow : l.isInFlow = true) (hallowed : l.keyAllowed = true)
    (hbody : stringBody ('"' :: cs) cs = .ok (body, behind))
    (hbehind : skipBlanks behind = ':' :: rest) :
    ∃ l', CutsTo l l' [.key, .scalar (.ofPoints body) false, .value] (skipBlanks rest) ∧
      l'.flow = l.flow := by
  obtain ⟨hcalm, hshared, bs, hbs, hrest⟩ := hl
  have hreads := stringReads_of_stringBody hbody
  obtain ⟨hstring, hshared'⟩ := isShared_string hshared hreads
  have hparts : behind = behind.takeWhile isBlank ++ ':' :: rest := by
    rw [← hbehind]
    exact List.takeWhile_append_dropWhile.symm
  simp only [isSharedString, List.tail_cons, hbody, hbehind, List.head?_cons, bne_self_eq_false,
    Bool.false_or, Bool.and_eq_true, Bool.not_eq_true', decide_eq_true_eq, List.all_eq_true,
    beq_iff_eq] at hstring
  rw [hparts] at hreads
  obtain ⟨l', hcuts, hrest', hflow'⟩ := Lexer.exists_key hcalm hbs hflow hallowed hrest hreads
    (fun c hc => isBreak_of_isShared hshared c (List.mem_cons_of_mem _ hc)) hstring.1 hstring.2.1
    hstring.2.2
  have hshared'' := isShared_separator (hbehind ▸ isShared_skipBlanks hshared') (by decide)
  exact ⟨l', ⟨hcuts, (standsAt_of_rest hcuts.calm hshared'' hrest').skipBlanks⟩, hflow'⟩

end

theorem readsElements_succ {fuel : Nat} (hvalue : ReadsValue fuel)
    (helements : ReadsElements fuel) : ReadsElements (fuel + 1) := by
  intro cs vs rest h l hl hflow
  rw [elements] at h
  obtain ⟨⟨v, behind⟩, hv, h⟩ := except_bind_eq_ok.1 h
  dsimp only at h
  split at h
  · -- the last element
    rename_i rest' hbehind
    cases h
    obtain ⟨t, l₁, ht, hcuts, hflow₁⟩ := hvalue cs v behind hv l hl
      (isBehindWord_of_sign hflow hbehind (.inr (.inl rfl)))
    obtain ⟨l₂, hclose, hflow₂⟩ := exists_flow_close hcuts.reaches
      ((Lexer.isInFlow_congr hflow₁).trans hflow) hbehind (.inl ⟨rfl, rfl⟩)
    refine ⟨t, [], l₂, .cons ht .nil, ?_, by rw [hflow₂, hflow₁]⟩
    simpa [Flow.itemTokens, Flow.separator] using hcuts.trans hclose
  · -- an element with others behind it
    rename_i rest' hbehind
    obtain ⟨⟨vs', rest''⟩, hvs, h⟩ := except_bind_eq_ok.1 h
    cases h
    obtain ⟨t, l₁, ht, hcuts, hflow₁⟩ := hvalue cs v behind hv l hl
      (isBehindWord_of_sign hflow hbehind (.inl rfl))
    obtain ⟨l₂, hcomma, hflow₂, -⟩ := exists_flow_comma hcuts.reaches hbehind
    obtain ⟨t', ts, l₃, hts, hmore, hflow₃⟩ := helements _ vs' rest'' hvs l₂ hcomma.reaches
      (by rw [Lexer.isInFlow_congr hflow₂, Lexer.isInFlow_congr hflow₁, hflow])
    refine ⟨t, t' :: ts, l₃, .cons ht hts, ?_, by rw [hflow₃, hflow₂, hflow₁]⟩
    rw [Flow.itemTokens, Flow.itemTokens_false_cons]
    simpa [Flow.separator] using (hcuts.trans hcomma).trans hmore
  · cases h

theorem readsMembers_succ {fuel : Nat} (hvalue : ReadsValue fuel)
    (hmembers : ReadsMembers fuel) : ReadsMembers (fuel + 1) := by
  intro cs done es rest h l hl hflow hallowed
  unfold members at h
  split at h
  · rename_i more
    obtain ⟨⟨name, behind⟩, hname, h⟩ := except_bind_eq_ok.1 h
    dsimp only at h
    split at h
    · rename_i more' hbehind
      obtain ⟨⟨v, behind'⟩, hv, h⟩ := except_bind_eq_ok.1 h
      dsimp only at h
      obtain ⟨l₁, hkey, hflow₁⟩ := exists_flow_key hl hflow hallowed hname hbehind
      have hin₁ : l₁.isInFlow = true := by rw [Lexer.isInFlow_congr hflow₁, hflow]
      split at h
      · -- the last member
        rename_i rest' hbehind'
        cases h
        obtain ⟨t, l₂, ht, hcuts, hflow₂⟩ := hvalue _ v behind' hv l₁ hkey.reaches
          (isBehindWord_of_sign hin₁ hbehind' (.inr (.inr rfl)))
        obtain ⟨l₃, hclose, hflow₃⟩ := exists_flow_close hcuts.reaches
          ((Lexer.isInFlow_congr hflow₂).trans hin₁) hbehind' (.inr ⟨rfl, rfl⟩)
        refine ⟨(.ofPoints name, t), [], [(.string (.ofPoints name), v)], l₃,
          .cons ⟨rfl, ht⟩ .nil, rfl, ?_, by rw [hflow₃, hflow₂, hflow₁]⟩
        simpa [Flow.entryTokens, Flow.separator] using (hkey.trans hcuts).trans hclose
      · -- a member with others behind it
        rename_i rest' hbehind'
        obtain ⟨t, l₂, ht, hcuts, hflow₂⟩ := hvalue _ v behind' hv l₁ hkey.reaches
          (isBehindWord_of_sign hin₁ hbehind' (.inl rfl))
        obtain ⟨l₃, hcomma, hflow₃, hallowed₃⟩ :=
          exists_flow_comma hcuts.reaches hbehind'
        obtain ⟨e, entries, pairs, l₄, hentries, hes, hmore, hflow₄⟩ := hmembers _ _ es rest h l₃
          hcomma.reaches
          (by rw [Lexer.isInFlow_congr hflow₃, Lexer.isInFlow_congr hflow₂, hin₁]) hallowed₃
        refine ⟨(.ofPoints name, t), e :: entries, (.string (.ofPoints name), v) :: pairs,
          l₄, .cons ⟨rfl, ht⟩ hentries, hes, ?_, by rw [hflow₄, hflow₃, hflow₂, hflow₁]⟩
        rw [Flow.entryTokens, Flow.entryTokens_false_cons]
        simpa [Flow.separator] using ((hkey.trans hcuts).trans hcomma).trans hmore
      · cases h
    · cases h
  · cases h

theorem readsValue_succ {fuel : Nat} (helements : ReadsElements fuel)
    (hmembers : ReadsMembers fuel) : ReadsValue (fuel + 1) := by
  intro cs v rest h l hl hbehind
  unfold value at h
  split at h
  · obtain ⟨⟨body, rest'⟩, hbody, heq⟩ := except_map_eq_ok.1 h
    cases heq
    exact exists_flow_string (stringReads_of_stringBody hbody) hl
  · rename_i more
    obtain ⟨l₁, hopen, hflow₁, hin, hallowed⟩ := exists_flow_open hl (.inr ⟨rfl, rfl⟩)
    split at h
    · rename_i hmore
      cases h
      obtain ⟨l₂, hclose, hflow₂⟩ := exists_flow_close hopen.reaches hin hmore
        (.inr ⟨rfl, rfl⟩)
      exact ⟨.mapping [], l₂, Flow.means_mapping .nil, hopen.trans hclose, by omega⟩
    · obtain ⟨⟨es, rest'⟩, hes, heq⟩ := except_map_eq_ok.1 h
      cases heq
      obtain ⟨e, entries, pairs, l₂, hentries, rfl, hcuts, hflow₂⟩ := hmembers _ [] es rest' hes l₁
        hopen.reaches.skipBlanks hin hallowed
      exact ⟨.mapping (e :: entries), l₂, Flow.means_mapping hentries, hopen.trans hcuts, by omega⟩
  · rename_i more
    obtain ⟨l₁, hopen, hflow₁, hin, -⟩ := exists_flow_open hl (.inl ⟨rfl, rfl⟩)
    split at h
    · rename_i hmore
      cases h
      obtain ⟨l₂, hclose, hflow₂⟩ := exists_flow_close hopen.reaches hin hmore
        (.inl ⟨rfl, rfl⟩)
      exact ⟨.sequence [], l₂, Flow.means_sequence .nil, hopen.trans hclose, by omega⟩
    · obtain ⟨⟨vs, rest'⟩, hvs, heq⟩ := except_map_eq_ok.1 h
      cases heq
      obtain ⟨t, ts, l₂, hts, hcuts, hflow₂⟩ :=
        helements _ vs rest' hvs l₁ hopen.reaches.skipBlanks hin
      exact ⟨.sequence (t :: ts), l₂, Flow.means_sequence hts, hopen.trans hcuts, by omega⟩
  · exact exists_flow_word h hl hbehind

theorem reads (fuel : Nat) : ReadsValue fuel ∧ ReadsElements fuel ∧ ReadsMembers fuel := by
  induction fuel with
  | zero => exact ⟨nofun, nofun, nofun⟩
  | succ fuel ih =>
    obtain ⟨hvalue, helements, hmembers⟩ := ih
    exact ⟨readsValue_succ helements hmembers, readsElements_succ hvalue helements,
      readsMembers_succ hvalue hmembers⟩

/-! ### Whole texts -/

/-- A shared text of JSON is cut into the tokens of a document that means the same in YAML. -/
theorem exists_flow {cs : List Char} {v : Value} (h : document cs = .ok v)
    (hshared : isShared cs = true) : ∃ t : Flow, t.Means v ∧ Token.scan cs = t.tokens := by
  unfold document at h
  split at h
  · cases h
  · obtain ⟨⟨w, behind⟩, hw, h⟩ := except_bind_eq_ok.1 h
    dsimp only at h
    split at h
    · rename_i hbehind
      cases h
      have hcalm : (Lexer.ofChars cs).Calm := ⟨le_rfl, rfl, rfl, nofun⟩
      have hl : StandsAt (Lexer.ofChars cs) (skipBlanks cs) :=
        (standsAt_of_rest hcalm hshared rfl).skipBlanks
      obtain ⟨t, l, ht, ⟨⟨-, htokens, n, hn, hrun⟩, hreaches⟩, -⟩ :=
        (reads (2 * cs.length + 2)).1 _ v behind hw _ hl (by rw [hbehind]; nofun)
      obtain ⟨hcalm', -, bs, hbs, hrest⟩ := hreaches
      rw [hbehind, List.append_nil] at hrest
      have hallowed : cs.all isAllowed = true := List.all_eq_true.2 fun c hc => by
        have hchar := (isShared_iff.1 hshared).1 c hc
        rw [isSharedChar, Bool.and_eq_true, Bool.and_eq_true] at hchar
        exact hchar.1.1
      have hslots : (Lexer.run (cs.length + 1) (Lexer.ofChars cs)).slots = l.slots := by
        have hfuel : cs.length + 1 = cs.length - n + 1 + n := by
          have hn : n + l.cursor.rest.length ≤ cs.length := hn
          omega
        rw [hfuel, hrun, Lexer.slots_run hcalm' hbs hrest]
      refine ⟨t, ht, ?_⟩
      rw [Token.scan, if_pos hallowed]
      dsimp only
      rw [hslots]
      exact htokens
    · cases h

/-- A shared text of JSON has the same value in YAML. -/
theorem load_eq {cs : List Char} {v : Value} (h : document cs = .ok v)
    (hshared : isShared cs = true) : Yaml.load cs = .ok (.value v) ∧ v.Alike v := by
  obtain ⟨t, ht, hscan⟩ := exists_flow h hshared
  exact ⟨ht.load_eq hscan, ht.alike⟩

end Json

/-! ### Documents -/

namespace Document

lemma parseJson_eq_ok {text : List Char} {path : FilePath} {v : Value} :
    parseJson text path = .ok v ↔ Json.document text = .ok v := except_mapError_eq_ok

end Document

/-- A text that has a value is validated as this value. -/
lemma Registry.validateDocument_eq {content : String} {v : Value}
    (h : Document.parse content.toList Document.noSource = .ok v) (r : Registry) (name : String) :
    r.validateDocument name content = r.validate name v := by
  unfold validateDocument
  rw [h]
  unfold validate
  cases r.get name <;> rfl

namespace Document

/-- A shared text that is loaded from a JSON file has the same value everywhere: as a text, as the
content of a file under any suffix, and where a text is validated. -/
theorem readers_agree {files : Files} {path : FilePath} {text : List Char} {v : Value}
    (hpath : isJsonPath path = true) (htext : readText files path = .ok text)
    (hload : load files path = .ok v) (hshared : Json.isShared text = true) :
    v.jsonEqual v = true ∧
      (∀ source, parse text source = .ok v) ∧
      (∀ files' path', readText files' path' = .ok text → load files' path' = .ok v) ∧
      ∀ (r : Registry) (name : String),
        r.validateDocument name (String.ofList text) = r.validate name v := by
  have hdocument : Json.document text = .ok v := by
    rw [load_of_text htext, if_pos hpath] at hload
    exact parseJson_eq_ok.1 hload
  obtain ⟨hyaml, halike⟩ := Json.load_eq hdocument hshared
  refine ⟨halike.equal, fun source => parse_eq_ok.2 hyaml, fun files' path' htext' => ?_,
    fun r name => ?_⟩
  · rw [load_of_text htext']
    split
    · exact parseJson_eq_ok.2 hdocument
    · exact parse_eq_ok.2 hyaml
  · refine r.validateDocument_eq ?_ name
    rw [String.toList_ofList]
    exact parse_eq_ok.2 hyaml

def mixedText : String :=
  "\x7b\"a\": [1, -2.5e+3, true, null],\n \"b\": \x7b\"c\": \"x\\u0041\\n\"\x7d\x7d"

/-- The file that is read as JSON and the file that is read as YAML hold the same value. -/
theorem readers_agree_mixed :
    ∃ v, v.jsonEqual (.object [
        (.string "a", .list [.int 1, .int (-2500), .bool true, .null]),
        (.string "b", .object [(.string "c", .string "xA\n")])]) = true ∧
      load (twoFiles mixedText mixedText) (.ofText "s.json") = .ok v ∧
      load (twoFiles mixedText mixedText) (.ofText "d.yaml") = .ok v := by
  obtain ⟨v, hread, hv⟩ := exists_of_any
    (show (Json.document mixedText.toList).toOption.any (fun v => v.jsonEqual (.object [
        (.string "a", .list [.int 1, .int (-2500), .bool true, .null]),
        (.string "b", .object [(.string "c", .string "xA\n")])])) = true by decide +kernel)
  have hascii : isAscii mixedText = true := by decide
  have hbreaks : '\r' ∉ mixedText.toList := by decide
  have hload : load (twoFiles mixedText mixedText) ⟨"", ["s.json"]⟩ = .ok v :=
    ofText_schemaFile ▸ load_schemaFile hascii hbreaks hread
  have hagree := readers_agree (by decide +kernel)
    (readText_of_ascii (by decide +kernel) rfl hascii hbreaks) hload (by decide +kernel)
  refine ⟨v, hv, ofText_schemaFile ▸ hload, ?_⟩
  rw [ofText_documentFile]
  exact hagree.2.2.1 _ _ (readText_of_ascii (by decide +kernel) rfl hascii hbreaks)

/-- An exponent without a sign makes a number in JSON, and a string in YAML. -/
theorem readers_differ_at_exponent :
    ∃ x, load (twoFiles "1e5" "1e5") (.ofText "s.json") = .ok (.double x) ∧
      load (twoFiles "1e5" "1e5") (.ofText "d.yaml") = .ok (.string "1e5") ∧
      parse "1e5".toList noSource = .ok (.string "1e5") ∧
      Value.jsonEqual (.double x) (.string "1e5") = false := by
  have hyaml : Yaml.load "1e5".toList = .ok (.value (.string "1e5")) := rfl
  exact ⟨_, load_schemaFile (by decide) (by decide) rfl,
    load_documentFile (by decide) (by decide) hyaml, parse_eq_ok.2 hyaml, rfl⟩

end Document

end JsonSchema
