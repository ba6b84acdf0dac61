import SchemaLint.Line.Style
import SchemaLint.Line.Compile
import SchemaLint.Line.Internal

/-!
Classification of lines: the shapes are tried one after the other, and a line
that has none of them is an error. `classifyAll` goes through the lines of an
output and stops at the first that cannot be read; `Classifier` does the same a
line at a time and stays finished once it has stopped.
-/

namespace SchemaLint.Line

/-- The record of a line that is not blank. -/
def classify (line : Text) : Except LineError Record := do
  match ← style line with
  | some record => return record
  | none =>
    match ← compile line with
    | some record => return record
    | none =>
      match ← internal line with
      | some record => return record
      | none => throw ⟨.unrecognized, line⟩

/-- The results for the lines that are not blank, up to the first error. -/
def classifyAll : List Text → List (Except LineError Record)
  | [] => []
  | line :: rest =>
    if Text.isBlank line then classifyAll rest
    else
      match classify line with
      | .ok record => .ok record :: classifyAll rest
      | .error e => [.error e]

end SchemaLint.Line

namespace SchemaLint

/-- The lines still to classify. After an error there are none. -/
structure Classifier where
  remaining : List Text
  hasFailed : Bool
deriving Repr

namespace Classifier

/-- A classifier at the first of its lines. -/
def ofLines (lines : List Text) : Classifier := ⟨lines, false⟩

/-- The next result, if there is one, and the classifier after it. Blank lines
are passed over. -/
def next (c : Classifier) : Option (Except LineError Record) × Classifier :=
  if c.hasFailed then (none, c)
  else
    match c.remaining.dropWhile Text.isBlank with
    | [] => (none, ⟨[], false⟩)
    | line :: rest =>
      match Line.classify line with
      | .ok record => (some (.ok record), ⟨rest, false⟩)
      | .error e => (some (.error e), ⟨rest, true⟩)

/-- The results of a number of calls of `next`. -/
def take : Nat → Classifier → List (Option (Except LineError Record))
  | 0, _ => []
  | count + 1, c => c.next.1 :: take count c.next.2

end Classifier

end SchemaLint
