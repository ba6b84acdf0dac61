import SchemaLint.Proofs.Compiler.Output
import SchemaLint.Proofs.Text.Numeral

/-!
# Splitting an output

An output is split line by line, and only a report of the plugin looks past its own
line: it takes the place of the number before it. So the split of two outputs after one
another is put together from theirs (`diagnostics_append`, `reportedCount_append`), the
number is that of the last report, whether it can be read or not
(`reportedCount_of_last`), and a report that ends in a numeral gives exactly its number
or none (`reportedNumber?_of_last`).
-/

namespace SchemaLint.CapturedOutput

open Text

variable {report : Text} {before after xs ys : List Text}

/-! ## Two outputs after one another -/

theorem diagnostics_append (xs ys : List Text) :
    (ofLines (xs ++ ys)).diagnostics = (ofLines xs).diagnostics ++ (ofLines ys).diagnostics := by
  rw [ofLines_diagnostics, ofLines_diagnostics, ofLines_diagnostics, List.filter_append]

theorem reportedCount_of_none (noReport : ∀ line ∈ xs, isReport line = false) :
    (ofLines xs).reportedCount = none := by
  have reports : xs.filter isReport = [] := by simpa using noReport
  rw [ofLines_reportedCount, reports]
  rfl

/-- What comes before a report has no part in the number. -/
theorem reportedCount_append_of_report (reported : ∃ line ∈ ys, isReport line = true)
    (xs : List Text) : (ofLines (xs ++ ys)).reportedCount = (ofLines ys).reportedCount := by
  obtain ⟨line, held, report⟩ := reported
  have ne : ys.filter isReport ≠ [] := List.ne_nil_of_mem (List.mem_filter.mpr ⟨held, report⟩)
  rw [ofLines_reportedCount, ofLines_reportedCount, List.filter_append, List.getLast?_append,
    List.getLast?_eq_some_getLast ne, Option.some_or]

/-- Lines that are no reports leave the number. -/
theorem reportedCount_append_of_none (noReport : ∀ line ∈ ys, isReport line = false)
    (xs : List Text) : (ofLines (xs ++ ys)).reportedCount = (ofLines xs).reportedCount := by
  have reports : ys.filter isReport = [] := by simpa using noReport
  rw [ofLines_reportedCount, ofLines_reportedCount, List.filter_append, reports, List.append_nil]

theorem reportedCount_append (xs ys : List Text) :
    (ofLines (xs ++ ys)).reportedCount =
      if ys.any isReport then (ofLines ys).reportedCount else (ofLines xs).reportedCount := by
  split
  · next reported => exact reportedCount_append_of_report (List.any_eq_true.mp reported) xs
  · next silent => exact reportedCount_append_of_none (by simpa using silent) xs

/-- The last report decides, whatever was reported before. -/
theorem reportedCount_of_last (isLast : isReport report = true)
    (noReport : ∀ line ∈ after, isReport line = false) :
    (ofLines (before ++ report :: after)).reportedCount = reportedNumber? report := by
  rw [reportedCount_append_of_report ⟨report, List.mem_cons_self, isLast⟩,
    ← List.singleton_append, reportedCount_append_of_none noReport, ofLines_reportedCount,
    List.filter_cons_of_pos isLast]
  rfl

/-! ## Splitting again -/

/-- The lines to classify hold no report and no blank line, so splitting them keeps all. -/
theorem ofLines_diagnostics_again (lines : List Text) :
    ofLines (ofLines lines).diagnostics = { diagnostics := (ofLines lines).diagnostics } := by
  have diagnostic : ∀ line ∈ (ofLines lines).diagnostics, isDiagnostic line = true := by
    rw [ofLines_diagnostics]
    exact fun line held => (List.mem_filter.mp held).2
  have kept : (ofLines (ofLines lines).diagnostics).diagnostics = (ofLines lines).diagnostics := by
    rw [ofLines_diagnostics, List.filter_eq_self.mpr diagnostic]
  have unreported : (ofLines (ofLines lines).diagnostics).reportedCount = none :=
    reportedCount_of_none fun line held => isReport_of_isDiagnostic (diagnostic line held)
  calc ofLines (ofLines lines).diagnostics
      = ⟨(ofLines (ofLines lines).diagnostics).diagnostics,
          (ofLines (ofLines lines).diagnostics).reportedCount⟩ := rfl
    _ = ⟨(ofLines lines).diagnostics, none⟩ := by rw [kept, unreported]

/-! ## The number of a report -/

/-- A numeral at the end of a report is read exactly or not at all, and a period after
it does not count. -/
theorem reportedNumber?_of_last {n : Nat} {period : Text} (ends : period = [] ∨ period = ['.'])
    (last : (words report).getLast? = some (numeral n ++ period)) :
    reportedNumber? report = if n ≤ maxWord64 then some n else none := by
  have digits : (numeral n).filter (· ≠ '.') = numeral n := by
    rw [List.filter_eq_self]
    intro c held
    have other : c ≠ '.' := by
      rintro rfl
      exact not_mem_numeral n (by decide) held
    exact decide_eq_true other
  have periodDropped : period.filter (· ≠ '.') = [] := by
    rcases ends with rfl | rfl <;> rfl
  rw [reportedNumber?, last, Option.bind_some, List.filter_append, digits, periodDropped,
    List.append_nil, numberUpTo?, number?_numeral, Option.filter_some]
  simp only [decide_eq_true_eq]

/-- Splitting an output sorts its lines without changing or reordering them: the lines to
classify are those that are neither blank nor a report, and the number is that of the last
report, none if that one cannot be read. Hence outputs split one after the other as they
do together, splitting the lines to classify again changes nothing, and a numeral at the
end of the last report counts exactly if it fits into 64 bits and not at all otherwise. -/
theorem ofLines_splits :
    (∀ lines, (ofLines lines).diagnostics =
      lines.filter fun line => !isBlank line && !contains failureMark line) ∧
    (∀ lines, (∀ line ∈ lines, isReport line = false) → (ofLines lines).reportedCount = none) ∧
    (∀ before report after, isReport report = true → (∀ line ∈ after, isReport line = false) →
      (ofLines (before ++ report :: after)).reportedCount = reportedNumber? report ∧
        ∀ (n : Nat) (period : Text), period = [] ∨ period = ['.'] →
          (words report).getLast? = some (numeral n ++ period) →
          (ofLines (before ++ report :: after)).reportedCount =
            if n ≤ maxWord64 then some n else none) ∧
    (∀ xs ys,
      (ofLines (xs ++ ys)).diagnostics = (ofLines xs).diagnostics ++ (ofLines ys).diagnostics ∧
      (ofLines (xs ++ ys)).reportedCount =
        if ys.any isReport then (ofLines ys).reportedCount else (ofLines xs).reportedCount) ∧
    ∀ lines, ofLines (ofLines lines).diagnostics =
      { diagnostics := (ofLines lines).diagnostics, reportedCount := none } := by
  refine ⟨ofLines_diagnostics, fun lines => reportedCount_of_none, ?_,
    fun xs ys => ⟨diagnostics_append xs ys, reportedCount_append xs ys⟩,
    ofLines_diagnostics_again⟩
  intro before report after isLast noReport
  have decided : (ofLines (before ++ report :: after)).reportedCount = reportedNumber? report :=
    reportedCount_of_last isLast noReport
  refine ⟨decided, fun n period ends last => ?_⟩
  rw [decided, reportedNumber?_of_last ends last]

/-- Two reports, the later of which decides: with a number one beyond 64 bits, with the
greatest of 64 bits and a period, and with no number at all. -/
theorem ofLines_splits_twice :
    (ofLines ["--lint_out: protoc-gen-lint: Plugin failed 3.",
        "--lint_out: protoc-gen-lint: Plugin failed 18446744073709551616"]).reportedCount = none ∧
    (ofLines ["--lint_out: protoc-gen-lint: Plugin failed 3.",
        "--lint_out: protoc-gen-lint: Plugin failed 18446744073709551615.", []]).reportedCount =
      some 18446744073709551615 ∧
    (ofLines ["--lint_out: protoc-gen-lint: Plugin failed 3.",
        "--lint_out: protoc-gen-lint: Plugin failed with 4 issues"]).reportedCount = none ∧
    (ofLines [[], "x.proto: File not found."]).reportedCount = none := by
  obtain ⟨-, unreported, reported, -⟩ := ofLines_splits
  refine ⟨?_, ?_, ?_, unreported _ (by decide)⟩
  · exact (reported ["--lint_out: protoc-gen-lint: Plugin failed 3."] _ [] (by decide)
      (by decide)).2 18446744073709551616 [] (.inl rfl) (by decide)
  · exact (reported ["--lint_out: protoc-gen-lint: Plugin failed 3."] _ [[]] (by decide)
      (by decide)).2 18446744073709551615 ['.'] (.inr rfl) (by decide)
  · have decided := (reported ["--lint_out: protoc-gen-lint: Plugin failed 3."]
      "--lint_out: protoc-gen-lint: Plugin failed with 4 issues" [] (by decide) (by decide)).1
    exact decided.trans (by decide)

end SchemaLint.CapturedOutput
