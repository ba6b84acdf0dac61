import SchemaLint.Text.Numeral

/-!
The stages of a run, and the comparison of the number of issues that the lint
plugin says it found with the number that was read.
-/

namespace SchemaLint

/-- A stage of a run. -/
inductive Phase where
  | idle
  | pathsResolved
  | commandBuilt
  | invoked
  | classified
  | crashedNoOutput
  | emitted
  | done
deriving Repr, DecidableEq

/-- The name of a stage. -/
def Phase.name : Phase → Text
  | .idle => "idle"
  | .pathsResolved => "paths resolved"
  | .commandBuilt => "command built"
  | .invoked => "invoked"
  | .classified => "classified"
  | .crashedNoOutput => "crashed without output"
  | .emitted => "emitted"
  | .done => "done"

/-- How the reported number of issues compares with the number read. -/
inductive Reconciliation where
  | matched
  /-- The plugin reported no number. -/
  | unreported
  | mismatch (reported parsed : Nat)
deriving Repr, DecidableEq

/-- Compares a reported number with the number of records read from lines of the
plugin. -/
def reconcile (reported : Option Nat) (parsed : Nat) : Reconciliation :=
  match reported with
  | none => .unreported
  | some n => if n = parsed then .matched else .mismatch n parsed

end SchemaLint
