import SchemaLint.Proofs.Run.Pass

/-!
# Runs that call no sink

A run that finds no file, whose compiler does not start, ends well, or fails without
a word gives its sink nothing. The first and the third meet no error.
-/

namespace SchemaLint.Linter

variable {σ : Type} {l : Linter} {engine : PatternEngine} {host : Host} {d : Discovery}
  {invoke : Invoker} {output : ToolOutput} {e : LintError}

/-- Without a file the compiler is not run. -/
theorem run_of_noFiles (found : ((Search.resolve engine l.config host).run {}).1 = .ok d)
    (empty : d.files = []) (sink : Sink σ) (s : σ) :
    (l.run engine host invoke sink s).result = .ok .noFiles ∧
      (l.run engine host invoke sink s).sink = s := by
  cases resolved : (Search.resolve engine l.config host).run {} with
  | mk result search =>
  rw [resolved] at found
  cases found
  simp [run, lint, resolved, empty]

variable (found : ((Search.resolve engine l.config host).run {}).1 = .ok d) (nonempty : d.files ≠ [])
include found nonempty

/-- A compiler that does not start ends the run. -/
theorem run_of_notStarted (refused : (invoke (.build l.compiler d)).1 = .error e)
    (sink : Sink σ) (s : σ) :
    (l.run engine host invoke sink s).result = .error e ∧
      (l.run engine host invoke sink s).sink = s := by
  cases resolved : (Search.resolve engine l.config host).run {} with
  | mk result search =>
  cases ran : invoke (.build l.compiler d) with
  | mk answer noted =>
  rw [resolved] at found
  rw [ran] at refused
  cases found
  cases refused
  simp [run, lint, resolved, ran, nonempty]

/-- A compiler that ends well leaves nothing to report. -/
theorem run_of_clean (answered : (invoke (.build l.compiler d)).1 = .ok output)
    (clean : output.isSuccess = true) (sink : Sink σ) (s : σ) :
    (∃ summary, (l.run engine host invoke sink s).result = .ok (.completed summary) ∧
        summary.emitted = 0) ∧
      (l.run engine host invoke sink s).sink = s := by
  obtain ⟨opening, -, run⟩ := run_eq found nonempty answered sink s
  rw [run, digest, capture, clean]
  simp [Line.classifyAll, emitAll, Logged.after]

/-- A compiler that fails without a word ends the run. -/
theorem run_of_silent (answered : (invoke (.build l.compiler d)).1 = .ok output)
    (failed : output.isSuccess = false) (silent : output.isSilent = true) (sink : Sink σ) (s : σ) :
    (l.run engine host invoke sink s).result = .error (.crashed l.compiler output.status) ∧
      (l.run engine host invoke sink s).sink = s := by
  obtain ⟨opening, -, run⟩ := run_eq found nonempty answered sink s
  rw [run, digest, failed, silent]
  exact ⟨rfl, rfl⟩

end SchemaLint.Linter
