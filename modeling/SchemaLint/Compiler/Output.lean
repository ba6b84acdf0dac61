import SchemaLint.Process
import SchemaLint.Text.Blank
import SchemaLint.Text.Lines
import SchemaLint.Text.Utf8

/-!
What a run of the compiler printed. `ToolOutput` has the lines of both streams;
`CapturedOutput` separates the lines to classify from the lint plugin's own
report of how many issues it found.
-/

namespace SchemaLint

/-- The output of a tool that has ended. -/
structure ToolOutput where
  isSuccess : Bool
  /-- How the tool ended, in words. -/
  status : Text
  /-- The lines of standard output and then those of standard error. -/
  lines : List Text
deriving Repr, DecidableEq

namespace ToolOutput

/-- The lines of the octets of a stream. -/
def streamLines (bytes : List UInt8) : List Text := Text.lines (Text.Utf8.decodeLossy bytes)

/-- The output of a process. -/
def ofProcess (p : FinishedProcess) : ToolOutput where
  isSuccess := p.status.isSuccess
  status := p.status.text
  lines := streamLines p.stdout ++ streamLines p.stderr

/-- Whether all lines are blank. -/
def isSilent (o : ToolOutput) : Bool := o.lines.all Text.isBlank

end ToolOutput

/-- The lines of an output by what they are for. -/
structure CapturedOutput where
  /-- The lines to classify. -/
  diagnostics : List Text := []
  /-- The number of issues that the plugin says it found. -/
  reportedCount : Option Nat := none
deriving Repr, DecidableEq

namespace CapturedOutput

/-- The phrase in the line by which the plugin reports a failure. -/
def failureMark : Text := "--lint_out: protoc-gen-lint: Plugin failed"

/-- The number at the end of the plugin's report, whose periods do not count. -/
def reportedNumber? (line : Text) : Option Nat :=
  (Text.words line).getLast?.bind fun word =>
    Text.numberUpTo? Text.maxWord64 (word.filter (· ≠ '.'))

/-- One more line: blank lines do not count, a report replaces the number, and
any other line is to be classified. -/
def add (c : CapturedOutput) (line : Text) : CapturedOutput :=
  if Text.isBlank line then c
  else if Text.contains failureMark line then { c with reportedCount := reportedNumber? line }
  else { c with diagnostics := c.diagnostics ++ [line] }

/-- The lines of an output, separated. -/
def ofLines (lines : List Text) : CapturedOutput := lines.foldl add {}

end CapturedOutput

end SchemaLint
