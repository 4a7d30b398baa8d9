import JsonSchema.Terminal.Picture
import JsonSchema.Text.Basic
import JsonSchema.Text.Blank
import JsonSchema.Text.LetterCase

/-!
Names of pictures between colons, which show as the pictures.
-/

namespace JsonSchema.Terminal.Emoji

/-- The word behind a name in a list of names and pictures. -/
def follower? (name : String) : List String → Option String
  | n :: picture :: rest => if n == name then some picture else follower? name rest
  | _ => none

def pictureWords : List String :=
  ((pictureNames.splitOn "\n").flatMap (·.splitOn " ")).filter fun w => !w.isEmpty

/-- The picture of a name, in letters of either case. -/
def named? (name : List Point) : Option (List Point) :=
  (follower? (Text.lowerCase (String.ofList (name.map Point.shown))) pictureWords).map fun w =>
    Text.plain w.toList

/-- The kinds of a picture that a name may end in, each with the sign that asks for it. -/
def variants : List (List Point × Char) :=
  [(Text.plain "-emoji".toList, '\ufe0f'), (Text.plain "-text".toList, '\ufe0e')]

/-- The picture of a code: a name, perhaps with a kind behind it. -/
def ofCode? (code : List Point) : Option (List Point) :=
  match variants.find? fun v => v.1.isSuffixOf code with
  | some v => (named? (code.take (code.length - v.1.length))).map (· ++ [.char v.2])
  | none => named? code

def replaceFrom : (fuel : Nat) → List Point → List Point
  | 0, ps => ps
  | fuel + 1, ps =>
    match ps with
    | [] => []
    | .char ':' :: rest =>
      match rest.span fun p => p != .char ':' && !Text.isBlank p.shown with
      | (code, .char ':' :: behind) =>
        (ofCode? code).getD (.char ':' :: code ++ [.char ':']) ++ replaceFrom fuel behind
      | _ => .char ':' :: replaceFrom fuel rest
    | p :: rest => p :: replaceFrom fuel rest

def replace (ps : List Point) : List Point := replaceFrom (ps.length + 1) ps

end JsonSchema.Terminal.Emoji
