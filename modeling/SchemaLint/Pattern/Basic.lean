import SchemaLint.Pattern.CharSet

/-!
Patterns and what they match. A pattern is matched against a stretch of a text,
from one position to another, and may also look at the characters on the two
sides of a position. `Matches` says by rules, one for each way to build a
pattern, which stretches it matches; no order among the ways to match is needed,
because the only question asked is whether there is one.
-/

namespace SchemaLint

namespace Pattern

/-- A condition on a position. -/
inductive Assertion where
  | textStart
  | textEnd
  | lineStart
  | lineEnd
  | wordEdge
  | noWordEdge
  | wordStart
  | wordEnd
  | wordStartHalf
  | wordEndHalf
deriving Repr, DecidableEq

/-- Whether there is a word character on one side. -/
def inWord (side : Option Char) : Bool := side.any isWordChar

/-- Whether the condition holds between two characters, where `none` stands for
an end of the text. -/
def Assertion.holds (before after : Option Char) : Assertion → Bool
  | .textStart => before.isNone
  | .textEnd => after.isNone
  | .lineStart => before.all (· == '\n')
  | .lineEnd => after.all (· == '\n')
  | .wordEdge => inWord before != inWord after
  | .noWordEdge => inWord before == inWord after
  | .wordStart => !inWord before && inWord after
  | .wordEnd => inWord before && !inWord after
  | .wordStartHalf => !inWord before
  | .wordEndHalf => !inWord after

end Pattern

/-- A pattern. A repetition without an upper bound has none as its `most`. -/
inductive Pattern where
  | empty
  | one (set : Pattern.CharSet)
  | assert (condition : Pattern.Assertion)
  | seq (p q : Pattern)
  | alt (p q : Pattern)
  | loop (p : Pattern) (least : Nat) (most : Option Nat)
deriving Repr, DecidableEq

namespace Pattern

/-- The character before a position. -/
def charBefore (t : Text) : Nat → Option Char
  | 0 => none
  | i + 1 => t[i]?

/-- `Matches t p i j`: the pattern `p` matches the stretch of `t` from position
`i` to position `j`. -/
inductive Matches (t : Text) : Pattern → Nat → Nat → Prop where
  | empty {i : Nat} : Matches t .empty i i
  | one {set : CharSet} {i : Nat} {c : Char} (at_i : t[i]? = some c) (mem : set.has c = true) :
      Matches t (.one set) i (i + 1)
  | assert {condition : Assertion} {i : Nat}
      (holds : condition.holds (charBefore t i) t[i]? = true) :
      Matches t (.assert condition) i i
  | seq {p q : Pattern} {i j k : Nat} :
      Matches t p i j → Matches t q j k → Matches t (.seq p q) i k
  | altLeft {p q : Pattern} {i j : Nat} : Matches t p i j → Matches t (.alt p q) i j
  | altRight {p q : Pattern} {i j : Nat} : Matches t q i j → Matches t (.alt p q) i j
  | loopDone {p : Pattern} {most : Option Nat} {i : Nat} : Matches t (.loop p 0 most) i i
  | loopMore {p : Pattern} {least : Nat} {most : Option Nat} {i j k : Nat}
      (allowed : most ≠ some 0) :
      Matches t p i j → Matches t (.loop p (least - 1) (most.map (· - 1))) j k →
      Matches t (.loop p least most) i k

end Pattern

end SchemaLint
