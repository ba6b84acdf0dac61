import SchemaLint.Issue.Basic
import SchemaLint.Run.Event

/-!
Steps with a log. A step gives a result or an error, the state that it leaves,
and what it noted.
-/

namespace SchemaLint

/-- What a step gives, where its log holds values of type `ε`. -/
structure Logged (ε σ α : Type) where
  result : Except LintError α
  state : σ
  log : List ε

/-- A receiver of issues, which may refuse any of them. It also gets the record
that the issue was made from. -/
abbrev Sink (σ : Type) := Record → Issue → σ → Logged Notice σ Unit

namespace Logged

/-- The step with more in front of its log. -/
def after {ε σ α : Type} (noted : List ε) (l : Logged ε σ α) : Logged ε σ α :=
  { l with log := noted ++ l.log }

end Logged

end SchemaLint
