import SchemaLint.Text.Basic

/-!
Engines for patterns. An engine compiles a text, or says why the text is no
pattern, and finds a match of what it has compiled. Which texts are patterns and
what they match is the engine's own affair; a search for schema files takes any.

Results about matches ask one thing of an engine: the match that it finds is the
leftmost, as `FindsLeftmost` says of a relation that tells what matches.
-/

namespace SchemaLint

/-- An engine for patterns. -/
structure PatternEngine where
  /-- What compiling a text gives. -/
  Compiled : Type
  /-- Compiles a text, or says why it is no pattern. -/
  compile : Text → Except Text Compiled
  /-- Where the match that is found in a text begins, if one is found. -/
  find : Compiled → Text → Option Nat

namespace PatternEngine

/-- `Matches p t i j` stands for a match of `p` in `t` from position `i` to position
`j`. A match is found if there is one, and none begins before the one found. -/
def FindsLeftmost (engine : PatternEngine)
    (Matches : engine.Compiled → Text → Nat → Nat → Prop) : Prop :=
  ∀ entry p, engine.compile entry = .ok p → ∀ t i,
    engine.find p t = some i ↔ (∃ j, Matches p t i j) ∧ ∀ k j, Matches p t k j → i ≤ k

end PatternEngine

end SchemaLint
