/-!
Texts as sequences of code points.

A code point is a character of Unicode or one half of a surrogate pair, which is no character and
cannot be written as bytes, but which an escape may bring into a text. Most texts are strings;
`Text.points` and `Text.ofPoints` go between texts and their code points.
-/

namespace JsonSchema

/-- Half of a surrogate pair, by its number among the halves. -/
structure Half where
  index : Fin 2048
  deriving DecidableEq, Repr, Inhabited

def Half.code (h : Half) : Nat := 0xd800 + h.index

inductive Point where
  | char (c : Char)
  | half (h : Half)
  deriving DecidableEq, Repr, Inhabited

namespace Point

instance : Coe Char Point := ⟨char⟩

def code : Point → Nat
  | char c => c.toNat
  | half h => h.code

/-- The code point of a number; numbers beyond them all have none of their own. -/
def ofCode (code : Nat) : Point :=
  if h : 0xd800 ≤ code ∧ code < 0xe000 then half ⟨⟨code - 0xd800, by omega⟩⟩
  else char (Char.ofNat code)

/-- The character that stands for a code point where it has to be one. It has no case and no use in
patterns, numbers and marks. -/
def shown : Point → Char
  | char c => c
  | half _ => '\ufffd'

def isHalf : Point → Bool
  | char _ => false
  | half _ => true

end Point

/-- A string, and behind it halves of pairs, each with the string up to the next one. -/
structure Text extends String where
  rest : List (Half × String)
  deriving DecidableEq, Repr, Inhabited

namespace Text

def ofString (s : String) : Text := ⟨s, []⟩

instance : Coe String Text := ⟨ofString⟩

/-- The code points of characters. -/
def plain (cs : List Char) : List Point := cs.map .char

def points (t : Text) : List Point :=
  plain t.toList ++ t.rest.flatMap fun r => .half r.1 :: plain r.2.toList

/-- The characters up to the first half, and the halves with the strings behind them. -/
def gather : List Point → List Char × List (Half × String)
  | [] => ([], [])
  | .char c :: ps => let (cs, rest) := gather ps; (c :: cs, rest)
  | .half h :: ps => let (cs, rest) := gather ps; ([], (h, String.ofList cs) :: rest)

def ofPoints (ps : List Point) : Text :=
  let (cs, rest) := gather ps
  ⟨String.ofList cs, rest⟩

/-! ### Texts and their code points -/

theorem gather_plain_append (cs : List Char) (ps : List Point) :
    gather (plain cs ++ ps) = (cs ++ (gather ps).1, (gather ps).2) := by
  induction cs with
  | nil => rfl
  | cons c cs ih =>
    rw [plain, List.map_cons, List.cons_append, gather, ← plain, ih]
    rfl

theorem gather_rest (rest : List (Half × String)) :
    gather (rest.flatMap fun r => .half r.1 :: plain r.2.toList) = ([], rest) := by
  induction rest with
  | nil => rfl
  | cons r rest ih =>
    obtain ⟨h, s⟩ := r
    rw [List.flatMap_cons, List.cons_append, gather, gather_plain_append, ih]
    simp [String.ofList_toList]

@[simp] theorem ofPoints_points (t : Text) : ofPoints t.points = t := by
  obtain ⟨s, rest⟩ := t
  rw [ofPoints, points, gather_plain_append, gather_rest]
  simp [String.ofList_toList]

@[simp] theorem points_ofPoints (ps : List Point) : (ofPoints ps).points = ps := by
  have hgather : plain (gather ps).1 ++
      (gather ps).2.flatMap (fun r => .half r.1 :: plain r.2.toList) = ps := by
    induction ps with
    | nil => rfl
    | cons p ps ih =>
      cases p with
      | char c => simpa [gather, plain] using ih
      | half h => simpa [gather, plain, String.toList_ofList] using ih
  rw [ofPoints, points]
  simpa [String.toList_ofList] using hgather

theorem ext_points {t u : Text} (h : t.points = u.points) : t = u := by
  rw [← ofPoints_points t, h, ofPoints_points]

@[simp] theorem points_ofString (s : String) : (ofString s).points = plain s.toList :=
  List.append_nil _

@[simp] theorem ofString_inj {s t : String} : ofString s = ofString t ↔ s = t :=
  ⟨congrArg toString, congrArg ofString⟩

/-! ### Operations -/

def length (t : Text) : Nat := t.points.length

/-- A text behind a string and what follows it. -/
def behind : String → List (Half × String) → Text → Text
  | s, [], t => ⟨s ++ t.toString, t.rest⟩
  | s, (h, next) :: rest, t =>
    let more := behind next rest t
    ⟨s, (h, more.toString) :: more.rest⟩

def append (t u : Text) : Text := behind t.toString t.rest u

instance : Append Text := ⟨append⟩

@[simp] theorem points_append (t u : Text) : (t ++ u).points = t.points ++ u.points := by
  have hbehind (s : String) (rest : List (Half × String)) :
      (behind s rest u).points = points ⟨s, rest⟩ ++ u.points := by
    induction rest generalizing s with
    | nil => simp [behind, points, plain]
    | cons r rest ih =>
      have hnext := ih r.2
      simp only [points] at hnext
      simp [behind, points, hnext]
  exact hbehind t.toString t.rest

theorem points_inj {t u : Text} : t.points = u.points ↔ t = u := ⟨ext_points, congrArg points⟩

@[simp] theorem append_empty (t : Text) : t ++ ofString "" = t :=
  ext_points (by simp [plain])

@[simp] theorem empty_append (t : Text) : ofString "" ++ t = t :=
  ext_points (by simp [plain])

theorem append_assoc (t u v : Text) : t ++ u ++ v = t ++ (u ++ v) :=
  ext_points (by simp)

@[simp] theorem append_right_inj {t u v : Text} : t ++ u = t ++ v ↔ u = v := by
  rw [← points_inj, points_append, points_append, List.append_cancel_left_eq, points_inj]

@[simp] theorem append_eq_left_iff {t u : Text} : t ++ u = t ↔ u = ofString "" :=
  ⟨fun h => append_right_inj.1 (h.trans (append_empty t).symm), fun h => h ▸ append_empty t⟩

@[simp] theorem append_eq_empty_iff {t u : Text} :
    t ++ u = ofString "" ↔ t = ofString "" ∧ u = ofString "" := by
  simp [← points_inj, plain]

def join (separator : Text) : List Text → Text
  | [] => ""
  | [t] => t
  | t :: rest => t ++ separator ++ join separator rest

/-- Whether a text has no half of a pair, so that it is a string. -/
def isPlain (t : Text) : Bool := t.rest.isEmpty

/-- The characters that stand for the code points. -/
def chars (t : Text) : List Char := t.points.map Point.shown

@[simp] theorem chars_ofString (s : String) : (ofString s).chars = s.toList := by
  rw [chars, points_ofString, plain, List.map_map]
  exact List.map_id _

end Text

end JsonSchema
