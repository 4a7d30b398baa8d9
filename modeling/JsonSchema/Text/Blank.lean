import JsonSchema.Text.CharRange

/-!
White space of any script, among it four separators of ASCII below the space.
-/

namespace JsonSchema.Text

def blankRanges : Array CharRange := #[
    (9, 13), (28, 32), (133, 133), (160, 160), (5760, 5760), (8192, 8202), (8232, 8233),
    (8239, 8239), (8287, 8287), (12288, 12288)]

def isBlank (c : Char) : Bool := inRanges blankRanges c

/-- Space, tab, line feed, vertical tab, form feed and carriage return. -/
def isAsciiBlank (c : Char) : Bool := c == ' ' || (9 ≤ c.toNat && c.toNat ≤ 13)

end JsonSchema.Text
