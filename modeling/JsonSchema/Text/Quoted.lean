import JsonSchema.Text.Basic

/-!
Strings in JSON text: the quoted form of a text, and texts with escapes in place of halves.
-/

namespace JsonSchema.Text

def hexDigit (n : Nat) : Char := "0123456789abcdef".toList.getD n '0'

/-- A natural in lower case hexadecimal digits, with exactly `width` of them. -/
def hexDigits : (width : Nat) → Nat → List Char
  | 0, _ => []
  | width + 1, n => hexDigits width (n / 16) ++ [hexDigit (n % 16)]

def unicodeEscape (code : Nat) : List Char := '\\' :: 'u' :: hexDigits 4 code

/-- A character that a quoted string cannot hold as itself: the quote, the backslash and the
controls of ASCII below the space. -/
def jsonEscape? (c : Char) : Option (List Char) :=
  if c = '"' then some ['\\', '"']
  else if c = '\\' then some ['\\', '\\']
  else if c = '\n' then some ['\\', 'n']
  else if c = '\r' then some ['\\', 'r']
  else if c = '\t' then some ['\\', 't']
  else if c = '\x08' then some ['\\', 'b']
  else if c = '\x0c' then some ['\\', 'f']
  else if c.toNat < 32 then some (unicodeEscape c.toNat)
  else none

def quoteChar (c : Char) : List Char := (jsonEscape? c).getD [c]

/-- A half of a pair stands as itself, too. -/
def quotePoint : Point → List Point
  | .char c => plain (quoteChar c)
  | .half h => [.half h]

/-- The quoted form, with all code points but those of `jsonEscape?` as themselves. -/
def inQuotes (t : Text) : Text := "\"" ++ ofPoints (t.points.flatMap quotePoint) ++ "\""

/-- A code point beyond the first plane is escaped as two surrogates. -/
def asciiEscape (code : Nat) : List Char :=
  if code < 0x10000 then unicodeEscape code
  else
    let rest := code - 0x10000
    unicodeEscape (0xd800 + rest / 1024) ++ unicodeEscape (0xdc00 + rest % 1024)

def quoteAsciiChar (c : Char) : List Char :=
  match jsonEscape? c with
  | some escape => escape
  | none => if c.toNat < 127 then [c] else asciiEscape c.toNat

def quoteAsciiPoint : Point → List Char
  | .char c => quoteAsciiChar c
  | .half h => unicodeEscape h.code

/-- The quoted form in printable ASCII alone. -/
def inAscii (t : Text) : String :=
  String.ofList ('"' :: t.points.flatMap quoteAsciiPoint ++ ['"'])

/-- A text as a string, with escapes in place of halves. -/
def escaped (t : Text) : String :=
  String.ofList (t.points.flatMap fun
    | .char c => [c]
    | .half h => unicodeEscape h.code)

/-- The quoted form as a string, with escapes in place of halves. -/
def quoted (t : Text) : List Char := t.inQuotes.escaped.toList

end JsonSchema.Text
