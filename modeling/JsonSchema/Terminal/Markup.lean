import JsonSchema.Terminal.Emoji

/-!
Text with marks for its style, as it shows on a terminal without styles.

A mark is a word in square brackets, and a backslash before it makes it plain text. Text that is
put among marks is escaped first. Of a backslash before another bracket only the bracket shows.
-/

namespace JsonSchema.Terminal.Markup

/-- Characters that a mark may begin with. -/
def startsMark (c : Char) : Bool := ('a' ≤ c && c ≤ 'z') || c == '#' || c == '/' || c == '@'

/-- A mark at the start of a text, with its brackets, and the text behind it. -/
def mark? (ps : List Point) : Option (List Point × List Point) :=
  match ps with
  | .char '[' :: p :: rest =>
    if startsMark p.shown then
      match rest.span fun p => p != .char ']' && p != .char '[' with
      | (body, .char ']' :: rest) => some (.char '[' :: p :: body ++ [.char ']'], rest)
      | _ => none
    else none
  | _ => none

/-- Text without a mark, or a mark with the number of backslashes before it. -/
inductive Part where
  | plain (text : List Point)
  | mark (backslashes : Nat) (text : List Point)
  deriving Repr

/-- Cuts a text at its marks; `before` is the plain text so far, in reverse. -/
def partsFrom : (fuel : Nat) → (before : List Point) → List Point → List Part
  | 0, before, _ => [.plain before.reverse]
  | fuel + 1, before, ps =>
    let (slashes, rest) := ps.span (· == .char '\\')
    match mark? rest with
    | some (text, rest) =>
      .plain before.reverse :: .mark slashes.length text :: partsFrom fuel [] rest
    | none =>
      match rest with
      | [] => [.plain ((slashes ++ before).reverse)]
      | p :: rest => partsFrom fuel (p :: (slashes ++ before)) rest

def parts (ps : List Point) : List Part := partsFrom (ps.length + 1) [] ps

def backslashes (count : Nat) : List Point := List.replicate count (.char '\\')

/-! ### Escaping -/

def escapePart : Part → List Point
  | .plain text => text
  | .mark count text => backslashes (2 * count + 1) ++ text

/-- A single backslash at the end would escape what follows. -/
def guardEnd (ps : List Point) : List Point :=
  match ps.reverse with
  | .char '\\' :: .char '\\' :: _ => ps
  | .char '\\' :: _ => ps ++ backslashes 1
  | _ => ps

/-- A text that shows as itself among marks. -/
def escape (ps : List Point) : List Point := guardEnd ((parts ps).flatMap escapePart)

/-! ### Showing -/

/-- Plain text, where a backslash before a bracket does not show. -/
def withoutBackslashes : List Point → List Point
  | .char '\\' :: .char '[' :: rest => .char '[' :: withoutBackslashes rest
  | p :: rest => p :: withoutBackslashes rest
  | [] => []

/-- Controls that a terminal would act on. -/
def isActive (p : Point) : Bool := [7, 8, 11, 12, 13].contains p.code

def showPlain (ps : List Point) : List Point :=
  (Emoji.replace (withoutBackslashes ps)).filter fun p => !isActive p

/-- Of two backslashes before a mark one shows, and an odd one makes the mark plain text. -/
def showPart : Part → List Point
  | .plain text => showPlain text
  | .mark count text =>
    backslashes (count / 2) ++ (if count % 2 = 0 then [] else showPlain text)

def shown (ps : List Point) : List Point := (parts ps).flatMap showPart

def styled (style : String) (ps : List Point) : List Point :=
  Text.plain ("[" ++ style ++ "]").toList ++ ps ++ Text.plain ("[/" ++ style ++ "]").toList

end JsonSchema.Terminal.Markup
