import JsonSchema.Document.Yaml.Scalar
import JsonSchema.Text.Utf8

/-!
The tokens of a YAML text, and the tokens that stand for themselves: names, tags and directives.
-/

namespace JsonSchema.Yaml

/-- A line that starts with a percent sign. -/
inductive Directive where
  | version (major : Nat)
  | tagPrefix (handle : String) (expansion : String)
  | other
  deriving DecidableEq, Repr

inductive Token where
  | documentStart
  | documentEnd
  | directive (d : Directive)
  | blockSequenceStart
  | blockMappingStart
  | blockEnd
  | flowSequenceStart
  | flowSequenceEnd
  | flowMappingStart
  | flowMappingEnd
  | blockEntry
  | flowEntry
  | key
  | value
  | alias (name : String)
  | anchor (name : String)
  | tag (handle : Option String) (suffix : String)
  | scalar (text : Text) (isPlain : Bool)
  /-- The text is no YAML from here on. -/
  | broken (defect : Defect)
  deriving DecidableEq, Repr

/-! ### Names -/

def anchorName (c : Cursor) : Except Defect (String × Cursor) :=
  let (name, c) := c.takeWhile isNameChar
  let ends := isGap c.peek?
    || c.peek?.any fun ch => ['?', ':', ',', ']', '\x7d', '%', '@', '\x60'].contains ch
  if name.isEmpty || !ends then .error .malformed else .ok (String.ofList name, c)

/-! ### Tags -/

def isUriChar (ch : Char) : Bool :=
  ch.isAlphanum || "-;/?:@&=+$,_.!~*'()[]%".toList.contains ch

def uriBytes : (fuel : Nat) → Cursor → Except Defect (List UInt8 × Cursor)
  | 0, c => .ok ([], c)
  | fuel + 1, c =>
    match c.rest with
    | '%' :: a :: b :: _ =>
      if isHexDigit a && isHexDigit b then do
        let (more, c) ← uriBytes fuel (c.skip 3)
        return (UInt8.ofNat (hexNumber [a, b]) :: more, c)
      else .error .malformed
    | '%' :: _ => .error .malformed
    | _ => .ok ([], c)

def uriText : (fuel : Nat) → Cursor → Scanned
  | 0, c => .ok ([], c)
  | fuel + 1, c =>
    match c.peek? with
    | none => .ok ([], c)
    | some ch =>
      if ch == '%' then do
        let (bytes, c) ← uriBytes (c.rest.length + 1) c
        match Text.Utf8.decode? bytes with
        | none => throw .malformed
        | some chars =>
          let (more, c) ← uriText fuel c
          return (chars ++ more, c)
      else if isUriChar ch then do
        let (more, c) ← uriText fuel c.next
        return (ch :: more, c)
      else .ok ([], c)

/-- The address of a tag, which is not empty. -/
def uri (c : Cursor) : Except Defect (String × Cursor) := do
  let (text, behind) ← uriText (c.rest.length + 1) c
  if behind.index = c.index then throw .malformed else return (String.ofList text, behind)

/-- A handle: a sign, or a name between two signs. -/
def tagHandle (c : Cursor) : Except Defect (String × Cursor) :=
  if !c.isAt '!' then .error .malformed
  else if c.peekAt? 1 == some ' ' then .ok ("!", c.next)
  else
    let (name, behind) := c.next.takeWhile isNameChar
    if behind.isAt '!' then .ok (String.ofList ('!' :: name ++ ['!']), behind.next)
    else .error .malformed

/-- Whether a second sign follows in the word that a tag is. -/
def hasHandle (c : Cursor) : Bool :=
  (c.next.rest.takeWhile fun ch => !endsWord (some ch)).contains '!'

def tagToken (c : Cursor) : Except Defect (Token × Cursor) := do
  let (token, c) ←
    if c.peekAt? 1 == some '<' then do
      let (suffix, c) ← uri (c.skip 2)
      if c.isAt '>' then pure (Token.tag none suffix, c.next) else throw .malformed
    else if isGap (c.peekAt? 1) then pure (Token.tag none "!", c.next)
    else do
      let (handle, c) ← if hasHandle c then tagHandle c else pure ("!", c.next)
      let (suffix, c) ← uri c
      pure (Token.tag (some handle) suffix, c)
  if endsWord c.peek? then return (token, c) else throw .malformed

/-! ### Directives -/

def versionNumber (c : Cursor) : Except Defect (Nat × Cursor) :=
  let (digits, c) := c.takeWhile Char.isDigit
  if digits.isEmpty then .error .malformed
  else if digitLimit < digits.length then .error .tooManyDigits
  else .ok (Json.digitsValue digits, c)

def versionDirective (c : Cursor) : Except Defect (Directive × Cursor) := do
  let (major, c) ← versionNumber c.skipSpaces
  if !c.isAt '.' then throw .malformed
  let (_, c) ← versionNumber c.next
  if endsWord c.peek? then return (.version major, c) else throw .malformed

def tagDirective (c : Cursor) : Except Defect (Directive × Cursor) := do
  let (handle, c) ← tagHandle c.skipSpaces
  if !c.isAt ' ' then throw .malformed
  let (expansion, c) ← uri c.skipSpaces
  if endsWord c.peek? then return (.tagPrefix handle expansion, c) else throw .malformed

/-- A directive behind its percent sign, up to the end of its line. -/
def directiveToken (c : Cursor) : Except Defect (Token × Cursor) := do
  let (name, c) := c.takeWhile isNameChar
  if name.isEmpty || !endsWord c.peek? then throw .malformed
  let (directive, c) ← match String.ofList name with
    | "YAML" => versionDirective c
    | "TAG" => tagDirective c
    | _ => pure (.other, c.skipWhile fun ch => !isBreak ch)
  let c := c.skipSpaces.skipComment
  if !endsLine c.peek? then throw .malformed
  return (.directive directive, ((c.lineBreak?).map (·.2)).getD c)

end JsonSchema.Yaml
