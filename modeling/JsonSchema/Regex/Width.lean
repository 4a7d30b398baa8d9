import JsonSchema.Regex.Syntax

/-!
How long the texts are that a pattern matches, and the last checks on a pattern that was read.

A lookbehind has to know where to start, so what it looks for must have one length only.
-/

namespace JsonSchema.Regex

/-- Lengths from here on are not told apart. -/
def widthLimit : Nat := Nat.pow 2 64

def clip (w : Nat × Nat) : Nat × Nat := (min w.1 widthLimit, min w.2 widthLimit)

/-- The number that stands for a repetition without end. -/
def repeatLimit : Nat := 4294967295

/-- The least and the greatest length that a node matches. -/
def Node.width (groups : List (Option (Nat × Nat))) : Node → Nat × Nat
  | .empty => (0, 0)
  | .char _ | .notChar _ | .any | .charSet .. => (1, 1)
  | .anchor _ | .lookahead .. | .lookbehind .. => (0, 0)
  | .seq a b =>
    let (la, ha) := a.width groups
    let (lb, hb) := b.width groups
    clip (la + lb, ha + hb)
  | .alt a b =>
    let (la, ha) := a.width groups
    let (lb, hb) := b.width groups
    (min la lb, max ha hb)
  | .group _ _ _ body => body.width groups
  | .atomic body => body.width groups
  | .rep _ least most body =>
    let (l, h) := body.width groups
    let high := match most with
      | none => if h = 0 then 0 else widthLimit
      | some m => h * m
    clip (l * least, high)
  | .backref index => ((groups[index]?).join).getD (0, 0)
  | .conditional _ yes no =>
    let (ly, hy) := yes.width groups
    let (ln, hn) := no.width groups
    (min ly ln, max hy hn)

/-- Gives every lookbehind its length and refuses what cannot be matched. -/
def Node.settle (groups : List (Option (Nat × Nat))) (flags : Flags) : Node → Except Error Node
  | .seq a b => return .seq (← a.settle groups flags) (← b.settle groups flags)
  | .alt a b => return .alt (← a.settle groups flags) (← b.settle groups flags)
  | .group index add del body => return .group index add del (← body.settle groups flags)
  | .atomic body => return .atomic (← body.settle groups flags)
  | .rep greed least most body =>
    if flags.template then
      let name := match greed with
        | .greedy => "MAX_REPEAT"
        | .lazy => "MIN_REPEAT"
        | .possessive => "POSSESSIVE_REPEAT"
      throw (.malformed s!"internal: unsupported template operator {name}" none)
    else return .rep greed least most (← body.settle groups flags)
  | .conditional index yes no =>
    return .conditional index (← yes.settle groups flags) (← no.settle groups flags)
  | .lookahead negated body => return .lookahead negated (← body.settle groups flags)
  | .lookbehind negated _ body => do
    let (low, high) := body.width groups
    if repeatLimit < low then throw (.malformed "looks too much behind" none)
    else if low ≠ high then throw (.malformed "look-behind requires fixed-width pattern" none)
    else return .lookbehind negated low (← body.settle groups flags)
  | n => return n

end JsonSchema.Regex
