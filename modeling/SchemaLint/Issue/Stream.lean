import SchemaLint.Issue.Document
import SchemaLint.Run.Event
import SchemaLint.Run.Logged

/-!
The issue stream: the documents of issues one after the other, each with its
terminator, on an output that may have a limit. An output takes the octets that
still fit and then fails; the writer counts the issues that went out whole.
-/

namespace SchemaLint

/-- An output that takes octets up to a limit, if it has one. -/
structure Output where
  bytes : List UInt8 := []
  limit : Option Nat := none
deriving Repr, DecidableEq

namespace Output

/-- The number of octets that an output still takes, if there is a limit. -/
def room (o : Output) : Option Nat := o.limit.map (· - o.bytes.length)

/-- Writes octets as far as they fit, and says whether all did. -/
def write (o : Output) (data : List UInt8) : Bool × Output :=
  match o.room with
  | none => (true, { o with bytes := o.bytes ++ data })
  | some n => (decide (data.length ≤ n), { o with bytes := o.bytes ++ data.take n })

end Output

/-- A writer of issues. -/
structure IssueWriter where
  output : Output := {}
  /-- The number of issues written whole. -/
  written : Nat := 0
deriving Repr, DecidableEq

namespace IssueWriter

/-- Writes the document of an issue and its terminator. -/
def write (w : IssueWriter) (i : Issue) : Except LintError Unit × IssueWriter :=
  let (isWhole, output) := w.output.write i.document
  if !isWhole then (.error (.system .diskFull), { w with output })
  else
    let (isEnded, output) := output.write Issue.terminator
    if !isEnded then (.error (.system .diskFull), { w with output })
    else (.ok (), { output, written := w.written + 1 })

/-- The sink that notes each issue and writes it. -/
def emit : Sink IssueWriter := fun record issue w =>
  let (result, w) := w.write issue
  ⟨result, w, [.issued record]⟩

end IssueWriter

end SchemaLint
