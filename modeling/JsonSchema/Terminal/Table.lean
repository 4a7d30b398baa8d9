import JsonSchema.Terminal.Wrap

/-!
Tables and panels in box characters.

A column is as wide as its longest line, with a blank on either side. If the columns together are
too wide, the widest ones are narrowed until they fit.
-/

namespace JsonSchema.Terminal

/-! ### Column widths -/

/-- The quotient of two naturals, rounded to the nearest, and to the even one if two are near. -/
def roundedQuotient (n d : Nat) : Nat :=
  let q := n / d
  let twice := 2 * (n % d)
  if twice < d then q
  else if d < twice then q + 1
  else if q % 2 = 0 then q else q + 1

/-- Takes a total from the chosen columns in equal parts, and from none more than a limit. -/
def reduce (limit : Nat) : (chosen total : Nat) → List (Nat × Bool) → List Nat
  | _, _, [] => []
  | chosen, total, (w, isChosen) :: rest =>
    if isChosen && 0 < limit && 0 < chosen then
      let part := min limit (roundedQuotient total chosen)
      (w - part) :: reduce limit (chosen - 1) (total - part) rest
    else w :: reduce limit chosen total rest

/-- Narrows the widest columns as far as the next ones, once. -/
def narrow (available : Nat) (widths : List Nat) : List Nat :=
  let widest := widths.foldl max 0
  let next := (widths.filter (· != widest)).foldl max 0
  let excess := widths.foldl (· + ·) 0 - available
  reduce (min excess (widest - next)) (widths.count widest) excess
    (widths.map fun w => (w, w == widest))

/-- Narrows columns until they fit. -/
def collapse (available : Nat) : (fuel : Nat) → List Nat → List Nat
  | 0, widths => widths
  | fuel + 1, widths =>
    if widths.foldl (· + ·) 0 ≤ available then widths
    else collapse available fuel (narrow available widths)

/-! ### Tables -/

structure Table where
  title : List Point
  header : List (List Point)
  rows : List (List (List Point))

namespace Table

/-- The blanks on the two sides of a cell. -/
def padding : Nat := 2

def bars (columns : Nat) : Nat := columns + 1

def wanted (t : Table) (available : Nat) : List Nat :=
  (List.range t.header.length).map fun i =>
    ((t.header :: t.rows).map fun row =>
      min available (longestLine 0 (row.getD i []) + padding)).foldl max 0

def widths (t : Table) (total : Nat) : List Nat :=
  let available := total - bars t.header.length
  let wanted := t.wanted available
  let narrowed := collapse available (wanted.foldl (· + ·) 0 + 1) wanted
  List.zipWith min wanted narrowed

/-- A rule across the table: its left end, its line, its crossings and its right end. -/
def rule (left line cross right : Char) (widths : List Nat) : List Point :=
  Text.plain (left :: [cross].intercalate (widths.map fun w => List.replicate w line) ++ [right])

def cellLines (w : Nat) (cell : List Point) : List (List Point) :=
  (wrap (w - padding) .ellipsis cell).map fun line =>
    blanks 1 ++ padTo (w - padding) line ++ blanks 1

/-- The lines of a row, as many as its highest cell has. -/
def rowLines (bar : Point) (widths : List Nat) (row : List (List Point)) : List (List Point) :=
  let cells := List.zipWith cellLines widths row
  let height := (cells.map List.length).foldl max 0
  (List.range height).map fun i =>
    let parts := List.zipWith (fun w (lines : List (List Point)) =>
      lines.getD i (blanks w)) widths cells
    bar :: [bar].intercalate parts ++ [bar]

/-- A table in so many columns of the terminal, with heavy lines around its header. -/
def lines (t : Table) (total : Nat) : List (List Point) :=
  let ws := t.widths total
  [centered (ws.foldl (· + ·) (bars ws.length)) t.title, rule '┏' '━' '┳' '┓' ws]
    ++ rowLines '┃' ws t.header
    ++ [rule '┡' '━' '╇' '┩' ws]
    ++ t.rows.flatMap (rowLines '│' ws)
    ++ [rule '└' '─' '┴' '┘' ws]

end Table

/-! ### Panels -/

/-- Lines in a box as wide as the terminal, with a title in its upper edge. -/
def panel (total : Nat) (title : List Point) (content : List (List Point)) : List (List Point) :=
  let inner := total - 4
  let title := blanks 1 ++ title ++ blanks 1
  let excess := inner - width title
  let edge (left : List Char) (n : Nat) (right : List Char) : List Point :=
    Text.plain (left ++ List.replicate n '─' ++ right)
  [edge ['╭'] (1 + excess / 2) [] ++ title ++ edge [] (excess - excess / 2 + 1) ['╮']]
    ++ content.map (fun line =>
      Text.plain ['│', ' '] ++ padTo inner line ++ Text.plain [' ', '│'])
    ++ [edge ['╰'] (inner + 2) ['╯']]

end JsonSchema.Terminal
