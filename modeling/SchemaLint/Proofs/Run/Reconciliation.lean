import SchemaLint.Proofs.Issue.Feed
import SchemaLint.Proofs.Run.Idle
import SchemaLint.Proofs.Run.Resolved

/-!
# Lines of the compiler have no part in the reconciliation

The plugin reports a number, and the run compares it with the records that it read from
the plugin's lines. Two runs are compared here, whose outputs differ by some lines
(`Inserted`). A sink that takes every issue leaves the lines alone to decide whether a
run completes: none of them may offend (`run_of_not_offends`, `not_offends_of_completed`).
What such a run reports is then counted over its lines one by one (`Summary.ofOutput`), so
lines that are put in or taken out add their own counts and change no other. The reported
number depends on the reports of the plugin alone.
-/

namespace SchemaLint

/-! ## Lines inserted among others -/

/-- `Inserted old new whole`: the elements of `whole` are those of `old`, in their
order, with those of `new`, in theirs, at some places among them. -/
inductive Inserted {α : Type} : List α → List α → List α → Prop
  | nil : Inserted [] [] []
  | keep {x old new whole} : Inserted old new whole → Inserted (x :: old) new (x :: whole)
  | insert {x old new whole} : Inserted old new whole → Inserted old (x :: new) (x :: whole)

namespace Inserted

variable {α β : Type} {old new whole : List α}

theorem perm (inserted : Inserted old new whole) : whole.Perm (old ++ new) := by
  induction inserted with
  | nil => exact .nil
  | keep _ ih => exact ih.cons _
  | insert _ ih => exact (ih.cons _).trans List.perm_middle.symm

/-- What is made of single elements is inserted as they are. -/
theorem filterMap (f : α → Option β) (inserted : Inserted old new whole) :
    Inserted (old.filterMap f) (new.filterMap f) (whole.filterMap f) := by
  induction inserted with
  | nil => exact .nil
  | @keep x _ _ _ _ ih =>
    cases made : f x with
    | none => simpa only [List.filterMap_cons_none made] using ih
    | some y => simpa only [List.filterMap_cons_some made] using ih.keep
  | @insert x _ _ _ _ ih =>
    cases made : f x with
    | none => simpa only [List.filterMap_cons_none made] using ih
    | some y => simpa only [List.filterMap_cons_some made] using ih.insert

theorem filter (p : α → Bool) (inserted : Inserted old new whole) :
    Inserted (old.filter p) (new.filter p) (whole.filter p) := by
  simpa only [List.filterMap_eq_filter] using inserted.filterMap (Option.guard p)

/-- Nothing that satisfies `p` was inserted, so nothing changes for `p`. -/
theorem filter_eq {p : α → Bool} (inserted : Inserted old new whole)
    (none : ∀ x ∈ new, p x = false) : whole.filter p = old.filter p := by
  induction inserted with
  | nil => rfl
  | @keep x _ _ _ _ ih => rw [List.filter_cons, List.filter_cons, ih none]
  | @insert x _ _ _ _ ih =>
    obtain ⟨first, others⟩ := List.forall_mem_cons.mp none
    rw [List.filter_cons_of_neg (by simp [first]), ih others]

end Inserted

/-! ## Runs that complete -/

open Line (classify)

/-- The record of a line, if it can be read. -/
def Line.read? (line : Text) : Option Record := (classify line).toOption

/-- Whether a line is read as an issue of the plugin. -/
def Line.isPlugin (line : Text) : Bool :=
  ((read? line).map fun r => decide (r.origin = .plugin)).getD false

theorem Line.isPlugin_of_classify {line : Text} {r : Record} (read : classify line = .ok r) :
    isPlugin line = decide (r.origin = .plugin) := by
  rw [isPlugin, read?, read]
  rfl

/-- A sink that takes every issue. -/
def Sink.Accepting {σ : Type} (sink : Sink σ) : Prop :=
  ∀ record issue s, (sink record issue s).result = .ok ()

section

variable {σ : Type} {d : Discovery} {sink : Sink σ} {lines : List Text} {records : List Record}

/-- A record has an outcome exactly if it is kept back or in a discovered file. -/
theorem exists_outcome_iff {r : Record} :
    (∃ made, r.issue d = .ok made) ↔
      r.isSuppressed = true ∨ ∃ file, d.find? r.file = some file := by
  cases suppressed : r.isSuppressed with
  | true => simp [issue_of_isSuppressed suppressed]
  | false =>
    cases known : d.find? r.file with
    | none => simp [issue_of_find?_eq_none suppressed known]
    | some file =>
      obtain ⟨issue, made⟩ := exists_issue suppressed known
      simp [made]

/-- A line whose record has an outcome does not offend. -/
theorem not_offends {line : Text} {r : Record} {made : Option Issue} (read : classify line = .ok r)
    (issue : r.issue d = .ok made) : ¬ Offends d line := by
  rintro (⟨e, unreadable⟩ | ⟨r', read', reported, unknown⟩)
  · rw [read] at unreadable
    cases unreadable
  · rw [read] at read'
    cases read'
    rw [issue_of_find?_eq_none reported unknown] at issue
    cases issue

/-- Lines resolve exactly if none of them offends. -/
theorem exists_resolved_iff :
    (∃ records, Resolved d lines records) ↔ ∀ line ∈ lines, ¬ Offends d line := by
  constructor
  · rintro ⟨records, reads, found⟩ line present
    have held : classify line ∈ records.map .ok := reads ▸ List.mem_map_of_mem present
    obtain ⟨r, recorded, read⟩ := List.mem_map.mp held
    obtain ⟨made, issue⟩ := exists_outcome_iff.mpr (found r recorded)
    exact not_offends read.symm issue
  · intro each
    rcases resolved_or_offends d lines with resolved | ⟨before, line, after, -, rfl, -, offends⟩
    · exact resolved
    · exact (each line (List.mem_append_right before List.mem_cons_self) offends).elim

theorem Resolved.records_eq (resolved : Resolved d lines records) :
    records = lines.filterMap Line.read? := by
  have read : lines.filterMap Line.read? = (lines.map classify).filterMap Except.toOption := by
    rw [List.filterMap_map]
    rfl
  rw [read, resolved.1, List.filterMap_map]
  exact List.filterMap_some.symm

/-- The calls of the sink are the issues that the lines make one by one. -/
theorem Resolved.issues_eq (resolved : Resolved d lines records) :
    issues d records = lines.filterMap (IssueWriter.attempt? d) := by
  rw [resolved.records_eq, issues, List.filterMap_filterMap]
  refine congrArg (List.filterMap · lines) (funext fun line => ?_)
  unfold Line.read? IssueWriter.attempt?
  cases classify line <;> rfl

theorem Passed.resolved {s t : σ} (passed : Passed d sink lines s records t) :
    Resolved d lines records := by
  induction passed with
  | nil => exact .nil
  | kept read suppressed _ ih => exact resolved_cons_iff.mpr ⟨⟨read, Or.inl suppressed⟩, ih⟩
  | taken read made _ _ ih =>
    exact resolved_cons_iff.mpr ⟨⟨read, exists_outcome_iff.mp ⟨_, made⟩⟩, ih⟩

/-- A sink that takes every issue gets over lines that do not offend. -/
theorem Resolved.exists_passed (resolved : Resolved d lines records) (accepting : sink.Accepting)
    (s : σ) : ∃ t, Passed d sink lines s records t := by
  induction lines generalizing records s with
  | nil =>
    have empty : records = [] := by simpa using resolved.1.symm
    exact ⟨s, empty ▸ .nil⟩
  | cons line lines ih =>
    cases records with
    | nil => simp [Resolved] at resolved
    | cons r records =>
      obtain ⟨⟨read, first⟩, others⟩ := resolved_cons_iff.mp resolved
      cases suppressed : r.isSuppressed with
      | true =>
        obtain ⟨t, passed⟩ := ih others s
        exact ⟨t, .kept read suppressed passed⟩
      | false =>
        obtain ⟨file, known⟩ := first.resolve_left (by simp [suppressed])
        obtain ⟨i, made⟩ := exists_issue suppressed known
        obtain ⟨t, passed⟩ := ih others (sink r i s).state
        exact ⟨t, .taken read made (accepting r i s) passed⟩

end

/-! ## Counting over the lines of an output -/

/-- A line that can be read is a diagnostic of the output, unless it is a report of the plugin. -/
theorem CapturedOutput.isDiagnostic_of_classify {line : Text} {r : Record}
    (read : classify line = .ok r) (noReport : ¬ failureMark <:+: line) :
    isDiagnostic line = true := by
  rw [isDiagnostic, Line.isBlank_of_classify read,
    Text.contains_eq_false_iff.mpr noReport]
  rfl

/-- A line that the compiler may print without ending a run: it is no report of the
plugin, and it is read as a record of the compiler that has an outcome. -/
def Line.IsOfCompiler (d : Discovery) (line : Text) : Prop :=
  ¬ CapturedOutput.failureMark <:+: line ∧
    ∃ r made, classify line = .ok r ∧ (r.origin = .compilerWarning ∨ r.origin = .compiler) ∧
      r.issue d = .ok made

/-- A line that is read as an issue of the plugin, and is no report of it. -/
def Line.IsOfPlugin (line : Text) : Prop :=
  ¬ CapturedOutput.failureMark <:+: line ∧ ∃ r, classify line = .ok r ∧ r.origin = .plugin

namespace Line

theorem IsOfCompiler.isDiagnostic {d : Discovery} {line : Text} (printed : IsOfCompiler d line) :
    CapturedOutput.isDiagnostic line = true := by
  obtain ⟨noReport, r, made, read, -⟩ := printed
  exact CapturedOutput.isDiagnostic_of_classify read noReport

theorem IsOfPlugin.isDiagnostic {line : Text} (printed : IsOfPlugin line) :
    CapturedOutput.isDiagnostic line = true := by
  obtain ⟨noReport, r, read, -⟩ := printed
  exact CapturedOutput.isDiagnostic_of_classify read noReport

theorem IsOfCompiler.isPlugin {d : Discovery} {line : Text} (printed : IsOfCompiler d line) :
    isPlugin line = false := by
  obtain ⟨-, r, made, read, origin | origin, -⟩ := printed <;>
    simp [isPlugin_of_classify read, origin]

theorem IsOfPlugin.isPlugin {line : Text} (printed : IsOfPlugin line) : isPlugin line = true := by
  obtain ⟨-, r, read, origin⟩ := printed
  simp [isPlugin_of_classify read, origin]

end Line

theorem reconcile_eq_matched_iff {reported : Option Nat} {parsed : Nat} :
    reconcile reported parsed = .matched ↔ reported = some parsed := by
  unfold reconcile
  split
  · simp
  · split <;> simp [*]

namespace ToolOutput

/-- How many lines of an output are read as issues of the plugin. -/
def parsedCount (output : ToolOutput) : Nat := output.diagnostics.countP Line.isPlugin

/-- The number that the plugin reports in an output. -/
def reportedCount (output : ToolOutput) : Option Nat :=
  (CapturedOutput.ofLines output.lines).reportedCount

/-- An output in which the plugin reports a number says something. -/
theorem isSilent_of_reportedCount {output : ToolOutput} {n : Nat}
    (reported : output.reportedCount = some n) : output.isSilent = false := by
  rw [reportedCount, CapturedOutput.ofLines_reportedCount, Option.bind_eq_some_iff] at reported
  obtain ⟨line, last, -⟩ := reported
  obtain ⟨present, report⟩ := List.mem_filter.mp (List.mem_of_getLast? last)
  rw [CapturedOutput.isReport, Bool.and_eq_true, Bool.not_eq_true'] at report
  exact isSilent_eq_false_iff.mpr ⟨line, present, report.1⟩

variable {old whole : ToolOutput} {new : List Text}
  (inserted : Inserted old.lines new whole.lines)
  (readable : ∀ line ∈ new, CapturedOutput.isDiagnostic line = true)
include inserted readable

theorem diagnostics_inserted : Inserted old.diagnostics new whole.diagnostics := by
  have kept := inserted.filter CapturedOutput.isDiagnostic
  rwa [List.filter_eq_self.mpr readable] at kept

/-- Diagnostics have no part in the number that the plugin reports. -/
theorem reportedCount_inserted : whole.reportedCount = old.reportedCount := by
  have reports : whole.lines.filter CapturedOutput.isReport =
      old.lines.filter CapturedOutput.isReport :=
    inserted.filter_eq fun line held => CapturedOutput.isReport_of_isDiagnostic (readable line held)
  rw [reportedCount, reportedCount, CapturedOutput.ofLines_reportedCount,
    CapturedOutput.ofLines_reportedCount, reports]

/-- The issues of the plugin are counted line by line. -/
theorem parsedCount_inserted :
    whole.parsedCount = old.parsedCount + new.countP Line.isPlugin := by
  have lines := (diagnostics_inserted inserted readable).perm
  rw [parsedCount, parsedCount, lines.countP_eq, List.countP_append]

end ToolOutput

/-- What a run over an output reports when no line stops it. -/
def Summary.ofOutput (d : Discovery) (output : ToolOutput) : Summary where
  files := d.files.length
  classified := output.diagnostics.length
  emitted := (output.diagnostics.filterMap (IssueWriter.attempt? d)).length
  suppressed := (output.diagnostics.filterMap Line.read?).countP fun r => r.isSuppressed
  reconciliation := reconcile output.reportedCount output.parsedCount

namespace Summary

variable {d : Discovery} {old whole : ToolOutput}

/-- Lines of the compiler are counted, and change no reconciliation. -/
theorem ofOutput_added {added : List Text} (inserted : Inserted old.lines added whole.lines)
    (compilers : ∀ line ∈ added, Line.IsOfCompiler d line) :
    (ofOutput d whole).reconciliation = (ofOutput d old).reconciliation ∧
      (ofOutput d whole).classified = (ofOutput d old).classified + added.length := by
  have readable : ∀ line ∈ added, CapturedOutput.isDiagnostic line = true :=
    fun line held => (compilers line held).isDiagnostic
  have noPlugin : added.countP Line.isPlugin = 0 :=
    List.countP_eq_zero.mpr fun line held => by simp [(compilers line held).isPlugin]
  constructor
  · rw [ofOutput, ofOutput, ToolOutput.reportedCount_inserted inserted readable,
      ToolOutput.parsedCount_inserted inserted readable, noPlugin, Nat.add_zero]
  · have lines := (ToolOutput.diagnostics_inserted inserted readable).perm
    exact lines.length_eq.trans List.length_append

/-- Lines of the plugin that are missing from an output whose counts matched are missed
in what is left. -/
theorem ofOutput_removed {removed : List Text} (inserted : Inserted old.lines removed whole.lines)
    (plugins : ∀ line ∈ removed, Line.IsOfPlugin line) (missing : removed ≠ [])
    (matched : (ofOutput d whole).reconciliation = .matched) :
    ∃ reported, whole.reportedCount = some reported ∧ old.reportedCount = some reported ∧
      removed.length ≤ reported ∧
      (ofOutput d old).reconciliation = .mismatch reported (reported - removed.length) := by
  have readable : ∀ line ∈ removed, CapturedOutput.isDiagnostic line = true :=
    fun line held => (plugins line held).isDiagnostic
  have allPlugin : removed.countP Line.isPlugin = removed.length :=
    List.countP_eq_length.mpr fun line held => (plugins line held).isPlugin
  have missed : 0 < removed.length := List.length_pos_iff.mpr missing
  have parsed : whole.parsedCount = old.parsedCount + removed.length := by
    rw [ToolOutput.parsedCount_inserted inserted readable, allPlugin]
  have count : whole.reportedCount = some whole.parsedCount := reconcile_eq_matched_iff.mp matched
  have reported : old.reportedCount = some whole.parsedCount :=
    (ToolOutput.reportedCount_inserted inserted readable).symm.trans count
  refine ⟨whole.parsedCount, count, reported, by omega, ?_⟩
  rw [ofOutput, reported, parsed, Nat.add_sub_cancel, reconcile]
  exact if_neg (by omega)

end Summary

namespace Linter

section

variable {σ : Type} {l : Linter} {engine : PatternEngine} {host : Host} {d : Discovery}
  {invoke : Invoker} {output : ToolOutput} {sink : Sink σ} {s : σ}
  (found : ((Search.resolve engine l.config host).run {}).1 = .ok d)
include found

/-- A run over lines that do not offend completes. -/
theorem run_of_not_offends (answered : (invoke (.build l.compiler d)).1 = .ok output)
    (failed : output.isSuccess = false) (accepting : sink.Accepting) (nonempty : d.files ≠ [])
    (spoken : output.isSilent = false) (each : ∀ line ∈ output.diagnostics, ¬ Offends d line) :
    (l.run engine host invoke sink s).result = .ok (.completed (.ofOutput d output)) ∧
      l.calls engine host invoke sink s = output.diagnostics.filterMap (IssueWriter.attempt? d) := by
  obtain ⟨records, resolved⟩ := exists_resolved_iff.mpr each
  obtain ⟨t, passed⟩ := resolved.exists_passed accepting s
  have spoken := ToolOutput.isSilent_eq_false_iff.mp spoken
  obtain ⟨result, -⟩ := run_of_passed found nonempty answered failed spoken passed
  obtain ⟨-, recorded, -⟩ :=
    run_of_passed found nonempty answered failed spoken (passed.recorded [])
  have calls : l.calls engine host invoke sink s = issues d records := congrArg Prod.snd recorded
  have parsed : (records.countP fun r => r.origin = .plugin) = output.parsedCount := by
    rw [resolved.records_eq, List.countP_filterMap]
    rfl
  rw [result, calls, parsed, resolved.issues_eq, resolved.records_eq]
  exact ⟨rfl, rfl⟩

/-- A run that completes had files, an output that says something, and no line in it
that offends. -/
theorem not_offends_of_completed (answered : (invoke (.build l.compiler d)).1 = .ok output)
    (failed : output.isSuccess = false) {summary : Summary}
    (completed : (l.run engine host invoke sink s).result = .ok (.completed summary)) :
    d.files ≠ [] ∧ output.isSilent = false ∧ ∀ line ∈ output.diagnostics, ¬ Offends d line := by
  have nonempty : d.files ≠ [] := by
    intro empty
    rw [(run_of_noFiles found empty sink s).1] at completed
    cases completed
  have spoken : output.isSilent = false := by
    cases silent : output.isSilent with
    | false => rfl
    | true =>
      rw [(run_of_silent found nonempty answered failed silent sink s).1] at completed
      cases completed
  refine ⟨nonempty, spoken, ?_⟩
  rcases passed_or_fails d sink output.diagnostics s with ⟨records, t, passed⟩ |
    ⟨before, line, after, records, t, e, read, refused, t', split, passed, fails⟩
  · exact exists_resolved_iff.mp ⟨records, passed.resolved⟩
  · have result := run_of_fails found nonempty answered failed
      (ToolOutput.isSilent_eq_false_iff.mp spoken) split passed fails
    rw [result.1] at completed
    cases completed

/-- Lines of the compiler that are put among those of an output neither end a run that
completed nor change its reconciliation. They are counted as records, and their issues
come between the others, where the lines stand. Lines of the plugin that are taken out
of an output whose counts matched are missed, each of them. -/
theorem run_reconciliation (answered : (invoke (.build l.compiler d)).1 = .ok output)
    (failed : output.isSuccess = false) (accepting : sink.Accepting) {summary : Summary}
    (completed : (l.run engine host invoke sink s).result = .ok (.completed summary)) :
    (∀ added lines again, Inserted output.lines added lines →
      (∀ line ∈ added, Line.IsOfCompiler d line) →
      (again (.build l.compiler d)).1 = .ok { output with lines } →
      ∃ longer, (l.run engine host again sink s).result = .ok (.completed longer) ∧
        longer.reconciliation = summary.reconciliation ∧
        longer.classified = summary.classified + added.length ∧
        l.calls engine host invoke sink s =
          output.diagnostics.filterMap (IssueWriter.attempt? d) ∧
        l.calls engine host again sink s =
          (lines.filter CapturedOutput.isDiagnostic).filterMap (IssueWriter.attempt? d) ∧
        Inserted (l.calls engine host invoke sink s) (added.filterMap (IssueWriter.attempt? d))
          (l.calls engine host again sink s)) ∧
    ∀ kept removed again, Inserted kept removed output.lines → removed ≠ [] →
      (∀ line ∈ removed, Line.IsOfPlugin line) → summary.reconciliation = .matched →
      (again (.build l.compiler d)).1 = .ok { output with lines := kept } →
      ∃ reported, output.reportedCount = some reported ∧ removed.length ≤ reported ∧
        ∃ shorter, (l.run engine host again sink s).result = .ok (.completed shorter) ∧
          shorter.reconciliation = .mismatch reported (reported - removed.length) := by
  obtain ⟨nonempty, spoken, each⟩ := not_offends_of_completed found answered failed completed
  obtain ⟨result, calls⟩ :=
    run_of_not_offends (s := s) found answered failed accepting nonempty spoken each
  rw [result] at completed
  cases completed
  constructor
  · intro added lines again inserted compilers answeredAgain
    let whole : ToolOutput := { output with lines }
    have inserted : Inserted output.lines added whole.lines := inserted
    have diagnostics : Inserted output.diagnostics added whole.diagnostics :=
      ToolOutput.diagnostics_inserted inserted fun line held => (compilers line held).isDiagnostic
    have spokenAgain : whole.isSilent = false := by
      obtain ⟨line, present, ink⟩ := ToolOutput.isSilent_eq_false_iff.mp spoken
      exact ToolOutput.isSilent_eq_false_iff.mpr
        ⟨line, inserted.perm.mem_iff.mpr (List.mem_append_left added present), ink⟩
    have eachAgain : ∀ line ∈ whole.diagnostics, ¬ Offends d line := by
      intro line held
      rcases List.mem_append.mp (diagnostics.perm.mem_iff.mp held) with held | held
      · exact each line held
      · obtain ⟨-, r, made, read, -, issue⟩ := compilers line held
        exact not_offends read issue
    obtain ⟨resultAgain, callsAgain⟩ := run_of_not_offends (s := s) found answeredAgain failed
      accepting nonempty spokenAgain eachAgain
    obtain ⟨same, more⟩ := Summary.ofOutput_added inserted compilers
    refine ⟨_, resultAgain, same, more, calls, callsAgain, ?_⟩
    rw [calls, callsAgain]
    exact diagnostics.filterMap _
  · intro kept removed again inserted missing plugins matched answeredAgain
    let left : ToolOutput := { output with lines := kept }
    have inserted : Inserted left.lines removed output.lines := inserted
    obtain ⟨reported, count, still, least, mismatch⟩ :=
      Summary.ofOutput_removed inserted plugins missing matched
    have eachAgain : ∀ line ∈ left.diagnostics, ¬ Offends d line := by
      intro line held
      have diagnostics : Inserted left.diagnostics removed output.diagnostics :=
        ToolOutput.diagnostics_inserted inserted fun line held => (plugins line held).isDiagnostic
      exact each line (diagnostics.perm.mem_iff.mpr (List.mem_append_left removed held))
    obtain ⟨resultAgain, -⟩ := run_of_not_offends (s := s) found answeredAgain failed
      accepting nonempty (ToolOutput.isSilent_of_reportedCount still) eachAgain
    exact ⟨reported, count, least, _, resultAgain, mismatch⟩

end

/-- A run with an issue of the plugin that it reports. A warning in front and an error
behind it leave the counts matched, and without the issue there is one too few. -/
theorem run_reconciliation_mixed :
    let issue : Text := "a.proto:1:7: 'foo' - message names"
    let report : Text := "--lint_out: protoc-gen-lint: Plugin failed with status code 1."
    let warning : Text := "[libprotobuf WARNING] No syntax specified a.proto. here"
    let error : Text := "a.proto:3:7: Missing field number."
    let host : Host := { tree := .dir [(("a.proto" : Text), .file [] none)], here := Path.root }
    let l : Linter := ⟨⟨{ listedPaths := [['/']] }, [], Path.root, none⟩, "protoc"⟩
    let answer (lines : List Text) : Invoker := fun _ => (.ok ⟨false, "exit status: 1", lines⟩, [])
    let sink : Sink Nat := fun _ _ n => ⟨.ok (), n + 1, []⟩
    ∃ longer shorter,
      (l.run Pattern.dialect host (answer [warning, issue, error, report]) sink 0).result =
          .ok (.completed longer) ∧
        longer.reconciliation = .matched ∧ longer.classified = 3 ∧
      (l.run Pattern.dialect host (answer [report]) sink 0).result = .ok (.completed shorter) ∧
        shorter.reconciliation = .mismatch 1 0 := by
  intro issue report warning error host l answer sink
  let d : Discovery := ⟨Path.root, [Path.root], [⟨"/a.proto"⟩]⟩
  let output : ToolOutput := ⟨false, "exit status: 1", [issue, report]⟩
  have found : ((Search.resolve Pattern.dialect l.config host).run {}).1 = .ok d := by
    rw [Search.resolve_root (by rfl : host.tree = _) rfl rfl rfl, FileTree.rootFiles_file]
    rfl
  have known : d.find? "a.proto" = some ⟨"/a.proto"⟩ := by decide
  have readIssue : classify issue =
      .ok (.make (.style .messageCase) .plugin issue "a.proto" 1 7 (some "foo")) := by
    rfl
  have readWarning : classify warning =
      .ok (.make (.style .syntaxUnspecified) .compilerWarning warning "a.proto" 1 1 none) := by
    rfl
  have readError : classify error =
      .ok (.make (.compile .missingFieldNumber) .compiler error "a.proto" 3 7 none) := by
    rfl
  have located {line : Text} {r : Record} (_ : classify line = .ok r)
      (shown : r.isSuppressed = false) (here : r.file = "a.proto") :
      ∃ made, r.issue d = .ok made := by
    obtain ⟨made, issue⟩ := exists_issue shown (here ▸ known)
    exact ⟨some made, issue⟩
  obtain ⟨_, fromIssue⟩ := located readIssue rfl rfl
  obtain ⟨_, fromWarning⟩ := located readWarning rfl rfl
  obtain ⟨_, fromError⟩ := located readError rfl rfl
  have noReport {line : Text} (h : Text.contains CapturedOutput.failureMark line = false) :
      ¬ CapturedOutput.failureMark <:+: line := Text.contains_eq_false_iff.mp h
  have diagnostics : output.diagnostics = [issue] := by decide
  have each : ∀ line ∈ output.diagnostics, ¬ Offends d line := by
    rw [diagnostics]
    exact List.forall_mem_singleton.mpr (not_offends readIssue fromIssue)
  have compilers : ∀ line ∈ [warning, error], Line.IsOfCompiler d line :=
    List.forall_mem_cons.mpr
      ⟨⟨noReport (by decide), _, _, readWarning, Or.inl rfl, fromWarning⟩,
        List.forall_mem_singleton.mpr
          ⟨noReport (by decide), _, _, readError, Or.inr rfl, fromError⟩⟩
  have plugins : ∀ line ∈ [issue], Line.IsOfPlugin line :=
    List.forall_mem_singleton.mpr ⟨noReport (by decide), _, readIssue, rfl⟩
  have accepting : sink.Accepting := fun _ _ _ => rfl
  have answered : (answer output.lines (.build l.compiler d)).1 = .ok output := rfl
  obtain ⟨completed, -⟩ := run_of_not_offends (s := 0) found answered rfl accepting (by decide)
    (by decide) each
  obtain ⟨added, removed⟩ := run_reconciliation found answered rfl accepting completed
  have matched : (Summary.ofOutput d output).reconciliation = .matched := by decide
  have one : (Summary.ofOutput d output).classified = 1 := congrArg List.length diagnostics
  obtain ⟨longer, resultLonger, same, more, -⟩ :=
    added [warning, error] [warning, issue, error, report] (answer _)
      (.insert (.keep (.insert (.keep .nil)))) compilers rfl
  obtain ⟨reported, count, -, shorter, resultShorter, missed⟩ :=
    removed [report] [issue] (answer _) (.insert (.keep .nil)) (by decide) plugins matched rfl
  have reportedOne : output.reportedCount = some 1 := by decide
  cases count.symm.trans reportedOne
  rw [one] at more
  exact ⟨longer, shorter, resultLonger, same.trans matched, more, resultShorter, missed⟩

end Linter

end SchemaLint
