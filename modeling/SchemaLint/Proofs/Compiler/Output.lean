import SchemaLint.Compiler.Output

/-!
# The lines to classify and the reported number

Splitting an output keeps the lines that are neither blank nor a report of the
plugin, in order and as they are (`ofLines_diagnostics`). The number that it takes is
that of the last report (`ofLines_reportedCount`), so no other line has a part in it.
-/

namespace SchemaLint

namespace ToolOutput

theorem isSilent_iff {output : ToolOutput} :
    output.isSilent = true ↔ ∀ line ∈ output.lines, Text.isBlank line = true :=
  List.all_eq_true

/-- An output with a line that is not blank is not silent. -/
theorem isSilent_eq_false_iff {output : ToolOutput} :
    output.isSilent = false ↔ ∃ line ∈ output.lines, Text.isBlank line = false := by
  simp [isSilent]

end ToolOutput

namespace CapturedOutput

/-- Whether a line is to be classified. -/
def isDiagnostic (line : Text) : Bool :=
  !Text.isBlank line && !Text.contains failureMark line

theorem add_diagnostics (c : CapturedOutput) (line : Text) :
    (c.add line).diagnostics = c.diagnostics ++ [line].filter isDiagnostic := by
  unfold add
  split
  · next blank => simp [isDiagnostic, blank]
  · next spoken =>
    split
    · next report => simp [isDiagnostic, report]
    · next other => simp [isDiagnostic, spoken, other]

theorem foldl_add_diagnostics (lines : List Text) (c : CapturedOutput) :
    (lines.foldl add c).diagnostics = c.diagnostics ++ lines.filter isDiagnostic := by
  induction lines generalizing c with
  | nil => simp
  | cons line lines ih =>
    rw [List.foldl_cons, ih, add_diagnostics, List.append_assoc, ← List.filter_append,
      List.singleton_append]

/-- The lines to classify are the diagnostic lines of the output. -/
theorem ofLines_diagnostics (lines : List Text) :
    (ofLines lines).diagnostics = lines.filter isDiagnostic := by
  rw [ofLines, foldl_add_diagnostics, List.nil_append]

theorem isBlank_of_isDiagnostic {line : Text} (diagnostic : isDiagnostic line = true) :
    Text.isBlank line = false := by
  simp only [isDiagnostic, Bool.and_eq_true, Bool.not_eq_true'] at diagnostic
  exact diagnostic.1

/-- Whether a line is a report of the plugin. -/
def isReport (line : Text) : Bool := !Text.isBlank line && Text.contains failureMark line

theorem isReport_of_isDiagnostic {line : Text} (diagnostic : isDiagnostic line = true) :
    isReport line = false := by
  simp only [isDiagnostic, Bool.and_eq_true, Bool.not_eq_true'] at diagnostic
  simp [isReport, diagnostic.2]

theorem add_reportedCount (c : CapturedOutput) (line : Text) :
    (c.add line).reportedCount =
      if isReport line then reportedNumber? line else c.reportedCount := by
  unfold add isReport
  cases blank : Text.isBlank line with
  | true => simp
  | false => cases report : Text.contains failureMark line <;> simp

theorem foldl_add_reportedCount (lines : List Text) (c : CapturedOutput) :
    (lines.foldl add c).reportedCount =
      match (lines.filter isReport).getLast? with
      | some line => reportedNumber? line
      | none => c.reportedCount := by
  induction lines generalizing c with
  | nil => rfl
  | cons line lines ih =>
    rw [List.foldl_cons, ih, add_reportedCount]
    cases report : isReport line with
    | false => rw [List.filter_cons_of_neg (by simp [report])]; rfl
    | true =>
      rw [List.filter_cons_of_pos report, List.getLast?_cons]
      cases (lines.filter isReport).getLast? <;> rfl

/-- The reported number is that of the last report. -/
theorem ofLines_reportedCount (lines : List Text) :
    (ofLines lines).reportedCount = (lines.filter isReport).getLast?.bind reportedNumber? := by
  rw [ofLines, foldl_add_reportedCount]
  cases (lines.filter isReport).getLast? <;> rfl

end CapturedOutput

end SchemaLint
