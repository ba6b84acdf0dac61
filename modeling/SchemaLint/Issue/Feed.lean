import SchemaLint.Issue.Stream
import SchemaLint.Line.Classify

/-!
Lines fed to a writer: each is classified, and the issue that its record makes,
if any, is written. A line that gives no issue leaves the writer as it is.
-/

namespace SchemaLint

/-- What became of a line. -/
inductive Fate where
  | written
  | suppressed
  | failed (e : LintError)
deriving Repr

/-- A writer after a line: what became of the line, and what was noted. -/
structure Fed where
  fate : Fate
  writer : IssueWriter
  log : List Notice

namespace IssueWriter

/-- Feeds a line to a writer. -/
def feed (d : Discovery) (w : IssueWriter) (line : Text) : Fed :=
  match Line.classify line with
  | .error e => ⟨.failed (.line e), w, []⟩
  | .ok r =>
    match r.issue d with
    | .error e => ⟨.failed e, w, []⟩
    | .ok none => ⟨.suppressed, w, []⟩
    | .ok (some issue) =>
      let given := emit r issue w
      match given.result with
      | .ok () => ⟨.written, given.state, given.log⟩
      | .error e => ⟨.failed e, given.state, given.log⟩

/-- Feeds lines one after the other, and says for each what became of it. -/
def feedAll (d : Discovery) : IssueWriter → List Text → List Fed
  | _, [] => []
  | w, line :: rest => feed d w line :: feedAll d (feed d w line).writer rest

end IssueWriter

end SchemaLint
