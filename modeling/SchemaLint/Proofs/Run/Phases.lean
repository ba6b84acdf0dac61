import SchemaLint.Issue.Stream
import SchemaLint.Proofs.Run.Idle

/-!
# The course of a run

A run notes every change of phase. `Ends` lists the ways in which a run can end, each
with the phase it is in then and its result; every run ends in one of them
(`exists_ends`). Its log then has the changes of phase that lead there, one after the
other, and a warning about the counts if its result says that they do not match
(`Ends.log_eq`). Nothing else in a log can be taken for either: the search, the invoker,
the sink and the pass over the lines note only events of other kinds.

So the last phase says what became of the search, the compiler and the lines, and they say
what the last phase is (`Linter.run_phases`). A result says less: the phase of a crash is
that of a compiler that was run and failed without a word, while an invoker or a sink may
report a crash of its own, which the run passes on (`Linter.result_crashed_iff`). Those of
the program never do (`Linter.crashedNoOutput_iff_crashed`).
-/

namespace SchemaLint

/-! ## Changes of phase in a log -/

/-- The phase that a run is in from an event on. -/
def Event.phase? : Event → Option Phase
  | .started phase => some phase
  | .advanced _ after => some after
  | _ => none

/-- The counts that an event says do not match. -/
def Event.mismatch? : Event → Option (Nat × Nat)
  | .countMismatch reported parsed => some (reported, parsed)
  | _ => none

/-- The phases that a run went through, by its log. -/
def phases (log : List Event) : List Phase := log.filterMap Event.phase?

/-- The warnings about the counts in a log. -/
def mismatches (log : List Event) : List (Nat × Nat) := log.filterMap Event.mismatch?

/-- The changes of phase in a log. -/
def changes (log : List Event) : List Event := log.filter fun e => e.phase?.isSome

/-- The changes of phase of a run that goes through some phases: the first is noted by
itself, each other one with the phase before it. -/
def transcript : List Phase → List Event
  | [] => []
  | first :: rest => .started first :: List.zipWith .advanced (first :: rest) rest

/-- The phases of a run that completes, in order. -/
def Phase.course : List Phase :=
  [.idle, .pathsResolved, .commandBuilt, .invoked, .classified, .emitted, .done]

/-- The phases up to one, and that one. Only a run that was invoked can crash. -/
def Phase.way (p : Phase) : List Phase :=
  if p = .crashedNoOutput then course.take 4 ++ [p] else course.take (course.idxOf p + 1)

theorem Phase.getLast?_way (p : Phase) : p.way.getLast? = some p := by
  cases p <;> rfl

/-- The phases up to one are a beginning of the course, unless the run crashed. -/
theorem Phase.way_isPrefix (p : Phase) :
    (p.way ≠ [] ∧ p.way <+: course) ∨
      p.way = [.idle, .pathsResolved, .commandBuilt, .invoked, .crashedNoOutput] := by
  by_cases crashed : p = .crashedNoOutput
  · exact Or.inr (by rw [crashed]; rfl)
  · rw [way, if_neg crashed]
    exact Or.inl ⟨by simp [course], List.take_prefix _ _⟩

/-- Whether an event is a change of phase or a warning about the counts. -/
def Event.isMark (e : Event) : Bool := e.phase?.isSome || e.mismatch?.isSome

/-- The changes of phase and the warnings about the counts in a log. -/
def marks (log : List Event) : List Event := log.filter Event.isMark

theorem phases_transcript (path : List Phase) : phases (transcript path) = path := by
  have later (before : Phase) (rest : List Phase) :
      phases (List.zipWith .advanced (before :: rest) rest) = rest := by
    induction rest generalizing before with
    | nil => rfl
    | cons after rest ih => exact congrArg (after :: ·) (ih after)
  cases path with
  | nil => rfl
  | cons first rest => exact congrArg (first :: ·) (later first rest)

theorem phases_changes (log : List Event) : phases (changes log) = phases log := by
  rw [phases, phases, changes, List.filterMap_filter]
  refine congrArg (List.filterMap · log) (funext fun e => ?_)
  cases e <;> rfl

theorem mismatches_marks (log : List Event) : mismatches (marks log) = mismatches log := by
  rw [mismatches, mismatches, marks, List.filterMap_filter]
  refine congrArg (List.filterMap · log) (funext fun e => ?_)
  cases e <;> rfl

theorem changes_marks (log : List Event) : changes (marks log) = changes log := by
  rw [changes, changes, marks, List.filter_filter]
  refine congrArg (List.filter · log) (funext fun e => ?_)
  cases e <;> rfl

theorem marks_append (a b : List Event) : marks (a ++ b) = marks a ++ marks b :=
  List.filter_append a b

theorem marks_notices (notices : List Notice) : marks (notices.map .notice) = [] := by
  refine List.filter_eq_nil_iff.mpr fun e held => ?_
  obtain ⟨notice, -, rfl⟩ := List.mem_map.mp held
  exact Bool.false_ne_true

theorem marks_search {engine : PatternEngine} {c : Config} {host : Host} :
    marks ((Search.resolve engine c host).run {}).2.log = [] := by
  refine List.filter_eq_nil_iff.mpr fun e held => ?_
  have search := Search.isSearch_of_mem_log held
  cases e with
  | started | advanced | countMismatch => cases search
  | _ => exact Bool.false_ne_true

namespace Linter

variable {σ : Type}

section

variable {d : Discovery} {sink : Sink σ}

/-- The pass over the lines stays in its phase and compares no counts. -/
theorem marks_emitAll (results : List (Except LineError Record)) (tally : Tally) (s : σ) :
    marks (emitAll d sink results tally s).log = [] := by
  induction results generalizing tally s with
  | nil => rfl
  | cons result results ih =>
    cases result with
    | error e => rfl
    | ok r =>
      unfold emitAll
      dsimp only
      split
      · rfl
      · rw [Logged.after, marks_append, ih]
        rfl
      · split
        · rw [marks_append, marks_notices]
          rfl
        · rw [Logged.after, marks_append, marks_append, marks_notices, ih]
          rfl

/-- The changes of phase and the warning of a run that completes, from the pass on. -/
def closingMarks (r : Reconciliation) : List Event :=
  .advanced .invoked .classified ::
    (match r with
      | .mismatch reported parsed => [.countMismatch reported parsed]
      | _ => []) ++
    [.advanced .classified .emitted, .advanced .emitted .done]

theorem marks_closingEvents (tally : Tally) (r : Reconciliation) :
    marks (closingEvents tally r) = closingMarks r := by
  have warnings : marks (if tally.compilerWarnings > 0 then
      [.compilerWarnings tally.compilerWarnings] else []) = [] := by
    split <;> rfl
  have issues : marks (if tally.classified > 0 then [.reportedIssues tally.emitted] else []) =
      [] := by
    split <;> rfl
  unfold closingEvents
  rw [marks_append, marks_append, marks_append, warnings, issues, marks_append]
  cases r <;> rfl

theorem marks_captureEvents (output : ToolOutput) : marks (captureEvents output) = [] := by
  unfold captureEvents
  split
  · split <;> rfl
  · rfl

/-- A failure without a word is noted as such. -/
theorem digest_of_silent {output : ToolOutput} (failed : output.isSuccess = false)
    (silent : output.isSilent = true) (compiler : Text) (s : σ) :
    (digest compiler d sink output s).result = .error (.crashed compiler output.status) ∧
      marks (digest compiler d sink output s).log = [.advanced .invoked .crashedNoOutput] := by
  rw [digest, failed, silent]
  exact ⟨rfl, rfl⟩

/-- Any other output is passed over, and the run completes if the pass does. -/
theorem marks_digest {output : ToolOutput}
    (heard : output.isSuccess = true ∨ output.isSilent = false) (compiler : Text) (s : σ) :
    marks (digest compiler d sink output s).log =
      match (digest compiler d sink output s).result with
      | .ok (.completed summary) => closingMarks summary.reconciliation
      | _ => [] := by
  have noCrash : ¬ (!output.isSuccess && output.isSilent) = true := by
    rcases heard with clean | spoken
    · simp [clean]
    · simp [spoken]
  have pass (results : List (Except LineError Record)) :
      marks ((emitAll d sink results {} s).after (captureEvents output)).log = [] := by
    rw [Logged.after, marks_append, marks_emitAll, marks_captureEvents]
    rfl
  rw [digest, if_neg noCrash]
  dsimp only
  split
  · exact pass _
  · rw [marks_append, pass, marks_closingEvents]
    rfl

end

/-! ## The ways in which a run ends -/

/-- The counts that a result says do not match. -/
def mismatch? : Except LintError Outcome → Option (Nat × Nat)
  | .ok (.completed summary) =>
    match summary.reconciliation with
    | .mismatch reported parsed => some (reported, parsed)
    | _ => none
  | _ => none

/-- The search finds schema files, so that the command over them is run. -/
def Launches (l : Linter) (engine : PatternEngine) (host : Host) (d : Discovery) : Prop :=
  ((Search.resolve engine l.config host).run {}).1 = .ok d ∧ d.files ≠ []

/-- The compiler is run and gives an output. -/
structure Hears (l : Linter) (engine : PatternEngine) (host : Host) (invoke : Invoker)
    (d : Discovery) (output : ToolOutput) : Prop where
  launches : l.Launches engine host d
  answered : (invoke (.build l.compiler d)).1 = .ok output

/-- The compiler fails, all lines before one pass, and that one fails with an error: it
cannot be read, it names no discovered file, or the sink refuses its issue. -/
def Aborts (l : Linter) (engine : PatternEngine) (host : Host) (invoke : Invoker) (sink : Sink σ)
    (s : σ) (e : LintError) (refused : List (Record × Issue)) : Prop :=
  ∃ d output before line after records t read t', l.Hears engine host invoke d output ∧
    output.isSuccess = false ∧ output.diagnostics = before ++ line :: after ∧
    Passed d sink before s records t ∧ Fails d sink line t e read refused t'

/-- The ways in which a run can end, with the phase it is in then and its result. -/
inductive Ends (l : Linter) (engine : PatternEngine) (host : Host) (invoke : Invoker)
    (sink : Sink σ) (s : σ) : Phase → Except LintError Outcome → Prop
  | unresolved {reason} :
      ((Search.resolve engine l.config host).run {}).1 = .error reason →
      Ends l engine host invoke sink s .idle (.error (.system reason))
  | noFiles {d} :
      ((Search.resolve engine l.config host).run {}).1 = .ok d →
      d.files = [] →
      Ends l engine host invoke sink s .pathsResolved (.ok .noFiles)
  | notStarted {d e} :
      l.Launches engine host d →
      (invoke (.build l.compiler d)).1 = .error e →
      Ends l engine host invoke sink s .commandBuilt (.error e)
  | crashed {d output} :
      l.Hears engine host invoke d output →
      output.isSuccess = false →
      output.isSilent = true →
      Ends l engine host invoke sink s .crashedNoOutput (.error (.crashed l.compiler output.status))
  | aborted {e refused} :
      l.Aborts engine host invoke sink s e refused →
      Ends l engine host invoke sink s .invoked (.error e)
  | completed {d output summary} :
      l.Hears engine host invoke d output →
      (digest l.compiler d sink output s).result = .ok (.completed summary) →
      Ends l engine host invoke sink s .done (.ok (.completed summary))

section

variable {l : Linter} {engine : PatternEngine} {host : Host} {d : Discovery} {invoke : Invoker}
  {output : ToolOutput} {sink : Sink σ} {s : σ}

theorem run_of_unresolved {reason : SystemError}
    (refused : ((Search.resolve engine l.config host).run {}).1 = .error reason) (sink : Sink σ)
    (s : σ) :
    (l.run engine host invoke sink s).result = .error (.system reason) ∧
      marks (l.run engine host invoke sink s).log = [.started .idle] := by
  have searched : marks ((Search.resolve engine l.config host).run {}).2.log = [] := marks_search
  cases resolved : (Search.resolve engine l.config host).run {} with
  | mk result search =>
  rw [resolved] at refused searched
  cases refused
  rw [run, resolved]
  dsimp only
  rw [← List.singleton_append, marks_append, searched]
  exact ⟨rfl, rfl⟩

theorem marks_run (found : ((Search.resolve engine l.config host).run {}).1 = .ok d) :
    marks (l.run engine host invoke sink s).log =
      .started .idle :: .advanced .idle .pathsResolved :: marks (l.lint d invoke sink s).log := by
  have searched : marks ((Search.resolve engine l.config host).run {}).2.log = [] := marks_search
  cases resolved : (Search.resolve engine l.config host).run {} with
  | mk result search =>
  rw [resolved] at found searched
  cases found
  rw [run, resolved]
  dsimp only
  rw [← List.singleton_append, marks_append, marks_append, searched]
  rfl

theorem marks_lint_of_noFiles (empty : d.files = []) :
    marks (l.lint d invoke sink s).log = [] := by
  rw [lint, empty]
  rfl

theorem marks_lint_of_notStarted {e : LintError} (nonempty : d.files ≠ [])
    (refused : (invoke (.build l.compiler d)).1 = .error e) :
    marks (l.lint d invoke sink s).log = [.advanced .pathsResolved .commandBuilt] := by
  cases ran : invoke (.build l.compiler d) with
  | mk answer noted =>
  rw [ran] at refused
  cases refused
  simp only [lint, List.isEmpty_iff, nonempty, if_false, ran]
  exact congrArg (.advanced .pathsResolved .commandBuilt :: ·) (marks_notices noted)

theorem marks_lint_of_answered (nonempty : d.files ≠ [])
    (answered : (invoke (.build l.compiler d)).1 = .ok output) :
    marks (l.lint d invoke sink s).log =
      .advanced .pathsResolved .commandBuilt :: .advanced .commandBuilt .invoked ::
        marks (digest l.compiler d sink output s).log := by
  cases ran : invoke (.build l.compiler d) with
  | mk answer noted =>
  rw [ran] at answered
  cases answered
  simp only [lint, List.isEmpty_iff, nonempty, if_false, ran]
  rw [← List.singleton_append, marks_append, marks_append, marks_notices]
  rfl

variable {p : Phase} {r : Except LintError Outcome}

theorem spoken_of_diagnostics {line : Text} (held : line ∈ output.diagnostics) :
    ∃ line ∈ output.lines, Text.isBlank line = false :=
  ⟨line, (List.mem_filter.mp held).1, output.spoken_of_mem_diagnostics line held⟩

theorem Hears.result_eq (hears : l.Hears engine host invoke d output) :
    (l.run engine host invoke sink s).result = (digest l.compiler d sink output s).result := by
  obtain ⟨⟨found, nonempty⟩, answered⟩ := hears
  obtain ⟨opening, -, run⟩ := run_eq found nonempty answered sink s
  rw [run]

theorem Aborts.result_eq {e : LintError} {refused : List (Record × Issue)}
    (aborts : l.Aborts engine host invoke sink s e refused) :
    (l.run engine host invoke sink s).result = .error e := by
  obtain ⟨d, output, before, line, after, records, t, read, t', ⟨launches, answered⟩, failed, split,
    passed, fails⟩ := aborts
  have spoken := spoken_of_diagnostics (split ▸ List.mem_append_right _ List.mem_cons_self)
  exact (run_of_fails launches.1 launches.2 answered failed spoken split passed fails).1

/-- An output after which a run completes: the compiler ended well, or it failed with
words and all lines pass. -/
def Clears (d : Discovery) (sink : Sink σ) (output : ToolOutput) (s : σ) : Prop :=
  output.isSuccess = true ∨
    output.isSuccess = false ∧ output.isSilent = false ∧
      ∃ records t, Passed d sink output.diagnostics s records t

theorem Clears.completes (clears : Clears d sink output s)
    (hears : l.Hears engine host invoke d output) :
    ∃ summary, (digest l.compiler d sink output s).result = .ok (.completed summary) := by
  obtain ⟨launches, answered⟩ := hears
  rw [← Hears.result_eq (s := s) ⟨launches, answered⟩]
  rcases clears with clean | ⟨failed, spoken, records, t, passed⟩
  · obtain ⟨⟨summary, result, -⟩, -⟩ := run_of_clean launches.1 launches.2 answered clean sink s
    exact ⟨summary, result⟩
  · have spoken := ToolOutput.isSilent_eq_false_iff.mp spoken
    exact ⟨_, (run_of_passed launches.1 launches.2 answered failed spoken passed).1⟩

/-- What a run makes of an output: it crashes, it aborts, or it completes. -/
theorem Hears.cases (hears : l.Hears engine host invoke d output) (sink : Sink σ) (s : σ) :
    (output.isSuccess = false ∧ output.isSilent = true) ∨
      (∃ e refused, l.Aborts engine host invoke sink s e refused) ∨ Clears d sink output s := by
  cases success : output.isSuccess with
  | true => exact Or.inr (Or.inr (Or.inl success))
  | false =>
  cases silent : output.isSilent with
  | true => exact Or.inl ⟨rfl, rfl⟩
  | false =>
  rcases passed_or_fails d sink output.diagnostics s with ⟨records, t, passed⟩ |
    ⟨before, line, after, records, t, e, read, refused, t', split, passed, fails⟩
  · exact Or.inr (Or.inr (Or.inr ⟨success, silent, records, t, passed⟩))
  · exact Or.inr (Or.inl ⟨e, refused, d, output, before, line, after, records, t, read, t', hears,
      success, split, passed, fails⟩)

/-- Every run ends in one of the ways. -/
theorem exists_ends (l : Linter) (engine : PatternEngine) (host : Host) (invoke : Invoker)
    (sink : Sink σ) (s : σ) : ∃ p r, Ends l engine host invoke sink s p r := by
  cases found : ((Search.resolve engine l.config host).run {}).1 with
  | error reason => exact ⟨_, _, .unresolved found⟩
  | ok d =>
  by_cases empty : d.files = []
  · exact ⟨_, _, .noFiles found empty⟩
  cases answered : (invoke (.build l.compiler d)).1 with
  | error e => exact ⟨_, _, .notStarted ⟨found, empty⟩ answered⟩
  | ok output =>
  have hears : l.Hears engine host invoke d output := ⟨⟨found, empty⟩, answered⟩
  rcases hears.cases sink s with ⟨failed, silent⟩ | ⟨e, refused, aborts⟩ | clears
  · exact ⟨_, _, .crashed hears failed silent⟩
  · exact ⟨_, _, .aborted aborts⟩
  · obtain ⟨summary, digested⟩ := clears.completes hears
    exact ⟨_, _, .completed hears digested⟩

namespace Ends

variable (ends : Ends l engine host invoke sink s p r)
include ends

/-- A run that ends in a way has its result. -/
theorem result_eq : (l.run engine host invoke sink s).result = r := by
  cases ends with
  | unresolved refused => exact (run_of_unresolved refused sink s).1
  | noFiles found empty => exact (run_of_noFiles found empty sink s).1
  | notStarted launches refused => exact (run_of_notStarted launches.1 launches.2 refused sink s).1
  | crashed hears failed silent =>
    obtain ⟨⟨found, nonempty⟩, answered⟩ := hears
    exact (run_of_silent found nonempty answered failed silent sink s).1
  | aborted aborts => exact aborts.result_eq
  | completed hears digested => exact hears.result_eq.trans digested

/-- A run that ends in a way went through the phases that lead there, and warned about
the counts if they are part of its result. -/
theorem log_eq :
    changes (l.run engine host invoke sink s).log = transcript p.way ∧
      mismatches (l.run engine host invoke sink s).log = (mismatch? r).toList := by
  rw [← changes_marks, ← mismatches_marks]
  cases ends with
  | unresolved refused =>
    rw [(run_of_unresolved refused sink s).2]
    exact ⟨rfl, rfl⟩
  | noFiles found empty =>
    rw [marks_run found, marks_lint_of_noFiles empty]
    exact ⟨rfl, rfl⟩
  | notStarted launches refused =>
    rw [marks_run launches.1, marks_lint_of_notStarted launches.2 refused]
    exact ⟨rfl, rfl⟩
  | crashed hears failed silent =>
    rw [marks_run hears.launches.1, marks_lint_of_answered hears.launches.2 hears.answered,
      (digest_of_silent failed silent _ s).2]
    exact ⟨rfl, rfl⟩
  | aborted aborts =>
    have result := aborts.result_eq
    obtain ⟨d, output, before, line, after, -, -, -, -, hears, -, split, -⟩ := aborts
    have spoken := spoken_of_diagnostics (split ▸ List.mem_append_right _ List.mem_cons_self)
    rw [marks_run hears.launches.1, marks_lint_of_answered hears.launches.2 hears.answered,
      marks_digest (Or.inr (ToolOutput.isSilent_eq_false_iff.mpr spoken)),
      hears.result_eq.symm.trans result]
    exact ⟨rfl, rfl⟩
  | @completed d output summary hears digested =>
    have heard : output.isSuccess = true ∨ output.isSilent = false := by
      cases success : output.isSuccess with
      | true => exact Or.inl rfl
      | false =>
        cases silent : output.isSilent with
        | false => exact Or.inr rfl
        | true =>
          rw [(digest_of_silent success silent _ s).1] at digested
          cases digested
    rw [marks_run hears.launches.1, marks_lint_of_answered hears.launches.2 hears.answered, marks_digest heard,
      digested]
    obtain ⟨_, _, _, _, reconciliation⟩ := summary
    cases reconciliation <;> exact ⟨rfl, rfl⟩

theorem phases_eq : phases (l.run engine host invoke sink s).log = p.way := by
  rw [← phases_changes, ends.log_eq.1, phases_transcript]

theorem getLast?_phases : (phases (l.run engine host invoke sink s).log).getLast? = some p := by
  rw [ends.phases_eq, Phase.getLast?_way]

end Ends

/-- The last phase of a run says in which way it ended. -/
theorem getLast?_phases_iff :
    (phases (l.run engine host invoke sink s).log).getLast? = some p ↔
      ∃ r, Ends l engine host invoke sink s p r := by
  constructor
  · intro last
    obtain ⟨q, r, ends⟩ := exists_ends l engine host invoke sink s
    rw [ends.getLast?_phases] at last
    cases last
    exact ⟨r, ends⟩
  · rintro ⟨r, ends⟩
    exact ends.getLast?_phases

/-- The result of a run says in which way it ended, or in which of several. -/
theorem result_eq_iff :
    (l.run engine host invoke sink s).result = r ↔ ∃ p, Ends l engine host invoke sink s p r := by
  constructor
  · rintro rfl
    obtain ⟨p, r, ends⟩ := exists_ends l engine host invoke sink s
    rw [ends.result_eq]
    exact ⟨p, ends⟩
  · rintro ⟨p, ends⟩
    exact ends.result_eq

/-! ## What the last phase says, and what the result says -/

theorem Ends.idle_iff : (∃ r, Ends l engine host invoke sink s .idle r) ↔
    ∃ reason, ((Search.resolve engine l.config host).run {}).1 = .error reason := by
  constructor
  · rintro ⟨_, ends⟩
    cases ends with
    | unresolved refused => exact ⟨_, refused⟩
  · rintro ⟨_, refused⟩
    exact ⟨_, .unresolved refused⟩

theorem Ends.pathsResolved_iff : (∃ r, Ends l engine host invoke sink s .pathsResolved r) ↔
    ∃ d, ((Search.resolve engine l.config host).run {}).1 = .ok d ∧ d.files = [] := by
  constructor
  · rintro ⟨_, ends⟩
    cases ends with
    | noFiles found empty => exact ⟨_, found, empty⟩
  · rintro ⟨_, found, empty⟩
    exact ⟨_, .noFiles found empty⟩

theorem Ends.commandBuilt_iff : (∃ r, Ends l engine host invoke sink s .commandBuilt r) ↔
    ∃ d e, l.Launches engine host d ∧ (invoke (.build l.compiler d)).1 = .error e := by
  constructor
  · rintro ⟨_, ends⟩
    cases ends with
    | notStarted launches refused => exact ⟨_, _, launches, refused⟩
  · rintro ⟨_, _, launches, refused⟩
    exact ⟨_, .notStarted launches refused⟩

theorem Ends.crashedNoOutput_iff : (∃ r, Ends l engine host invoke sink s .crashedNoOutput r) ↔
    ∃ d output, l.Hears engine host invoke d output ∧ output.isSuccess = false ∧
      output.isSilent = true := by
  constructor
  · rintro ⟨_, ends⟩
    cases ends with
    | crashed hears failed silent => exact ⟨_, _, hears, failed, silent⟩
  · rintro ⟨_, _, hears, failed, silent⟩
    exact ⟨_, .crashed hears failed silent⟩

theorem Ends.invoked_iff : (∃ r, Ends l engine host invoke sink s .invoked r) ↔
    ∃ e refused, l.Aborts engine host invoke sink s e refused := by
  constructor
  · rintro ⟨_, ends⟩
    cases ends with
    | aborted aborts => exact ⟨_, _, aborts⟩
  · rintro ⟨_, _, aborts⟩
    exact ⟨_, .aborted aborts⟩

theorem Ends.done_iff : (∃ r, Ends l engine host invoke sink s .done r) ↔
    ∃ d output, l.Hears engine host invoke d output ∧ Clears d sink output s := by
  constructor
  · rintro ⟨_, ends⟩
    cases ends with
    | @completed d output summary hears digested =>
      refine ⟨d, output, hears, ?_⟩
      rcases hears.cases sink s with ⟨failed, silent⟩ | ⟨e, refused, aborts⟩ | clears
      · rw [(digest_of_silent failed silent _ s).1] at digested
        cases digested
      · cases (hears.result_eq.trans digested).symm.trans aborts.result_eq
      · exact clears
  · rintro ⟨d, output, hears, clears⟩
    obtain ⟨summary, digested⟩ := clears.completes hears
    exact ⟨_, .completed hears digested⟩

theorem result_noFiles_iff : (l.run engine host invoke sink s).result = .ok .noFiles ↔
    ∃ r, Ends l engine host invoke sink s .pathsResolved r := by
  rw [result_eq_iff]
  constructor
  · rintro ⟨_, ends⟩
    cases ends with
    | noFiles found empty => exact ⟨_, .noFiles found empty⟩
  · rintro ⟨_, ends⟩
    cases ends with
    | noFiles found empty => exact ⟨_, .noFiles found empty⟩

theorem result_completed_iff :
    (∃ summary, (l.run engine host invoke sink s).result = .ok (.completed summary)) ↔
      ∃ r, Ends l engine host invoke sink s .done r := by
  simp only [result_eq_iff]
  constructor
  · rintro ⟨summary, _, ends⟩
    cases ends with
    | completed hears digested => exact ⟨_, .completed hears digested⟩
  · rintro ⟨_, ends⟩
    cases ends with
    | completed hears digested => exact ⟨_, _, .completed hears digested⟩

/-- A result is a crash if the compiler was run and failed without a word, or if the
invoker or the sink reports one, which the run passes on. -/
theorem result_crashed_iff {program status : Text} :
    (l.run engine host invoke sink s).result = .error (.crashed program status) ↔
      (∃ d output, l.Hears engine host invoke d output ∧ output.isSuccess = false ∧
        output.isSilent = true ∧ program = l.compiler ∧ status = output.status) ∨
      (∃ d, l.Launches engine host d ∧
        (invoke (.build l.compiler d)).1 = .error (.crashed program status)) ∨
      ∃ call, l.Aborts engine host invoke sink s (.crashed program status) [call] := by
  constructor
  · intro crashed
    obtain ⟨p, ends⟩ := result_eq_iff.mp crashed
    cases ends with
    | crashed hears failed silent => exact Or.inl ⟨_, _, hears, failed, silent, rfl, rfl⟩
    | notStarted launches refused => exact Or.inr (Or.inl ⟨_, launches, refused⟩)
    | @aborted _ refused aborts =>
      refine Or.inr (Or.inr ?_)
      -- Neither a line that cannot be read nor a file that is unknown is a crash.
      have asked : ∃ call, refused = [call] := by
        obtain ⟨_, _, _, _, _, _, _, _, _, -, -, -, -, fails⟩ := aborts
        cases fails with
        | refused => exact ⟨_, rfl⟩
      obtain ⟨call, rfl⟩ := asked
      exact ⟨call, aborts⟩
  · rintro (⟨d, output, hears, failed, silent, rfl, rfl⟩ | ⟨d, launches, refused⟩ | ⟨call, aborts⟩)
    · exact (Ends.crashed hears failed silent).result_eq
    · exact (Ends.notStarted launches refused).result_eq
    · exact aborts.result_eq

/-- A run of a host's programs that writes to a stream crashes exactly if its compiler
fails without a word: neither the programs nor the writer report a crash. -/
theorem crashedNoOutput_iff_crashed (l : Linter) (engine : PatternEngine) (host : Host)
    (w : IssueWriter) :
    let run := l.run engine host host.invoker IssueWriter.emit w
    (phases run.log).getLast? = some .crashedNoOutput ↔
      ∃ program status, run.result = .error (.crashed program status) := by
  intro run
  rw [getLast?_phases_iff, Ends.crashedNoOutput_iff]
  constructor
  · rintro ⟨d, output, hears, failed, silent⟩
    exact ⟨_, _, (Ends.crashed hears failed silent).result_eq⟩
  · rintro ⟨program, status, crashed⟩
    rcases result_crashed_iff.mp crashed with
      ⟨d, output, hears, failed, silent, -⟩ | ⟨d, -, refused⟩ | ⟨call, aborts⟩
    · exact ⟨d, output, hears, failed, silent⟩
    · unfold Host.invoker at refused
      split at refused <;> cases refused
    · obtain ⟨_, _, _, _, _, _, _, _, _, -, -, -, -, fails⟩ := aborts
      cases fails with
      | refused _ _ result =>
        unfold IssueWriter.emit IssueWriter.write at result
        dsimp only at result
        split at result
        · cases result
        · split at result <;> cases result

end

/-- The course of a run. Its log has the changes of phase of a beginning of the course, or
of the way to a crash, and the last phase is that of what happened. In the first one the
search failed, in the next there was nothing to lint, and then the compiler did not start.
A compiler that was run and failed without a word crashed. A run that stays invoked has a
line that fails, and one that is done had a compiler that ended well or lines that all
pass. Each way to end has its result. A result that is a crash is the compiler's, unless
the invoker or the sink reports one. The counts are warned about exactly if the result
says that they do not match. -/
theorem run_phases (l : Linter) (engine : PatternEngine) (host : Host) (invoke : Invoker)
    (sink : Sink σ) (s : σ) :
    let run := l.run engine host invoke sink s
    let path := phases run.log
    changes run.log = transcript path ∧
    ((path ≠ [] ∧ path <+: Phase.course) ∨
      path = [.idle, .pathsResolved, .commandBuilt, .invoked, .crashedNoOutput]) ∧
    (path.getLast? = some .idle ↔
      ∃ reason, ((Search.resolve engine l.config host).run {}).1 = .error reason) ∧
    (path.getLast? = some .pathsResolved ↔
      ∃ d, ((Search.resolve engine l.config host).run {}).1 = .ok d ∧ d.files = []) ∧
    (path.getLast? = some .pathsResolved ↔ run.result = .ok .noFiles) ∧
    (path.getLast? = some .commandBuilt ↔
      ∃ d e, l.Launches engine host d ∧ (invoke (.build l.compiler d)).1 = .error e) ∧
    (path.getLast? = some .crashedNoOutput ↔
      ∃ d output, l.Hears engine host invoke d output ∧ output.isSuccess = false ∧
        ∀ line ∈ output.lines, Text.isBlank line = true) ∧
    (path.getLast? = some .invoked ↔
      ∃ e refused, l.Aborts engine host invoke sink s e refused) ∧
    (path.getLast? = some .done ↔
      ∃ d output, l.Hears engine host invoke d output ∧ Clears d sink output s) ∧
    (path.getLast? = some .done ↔ ∃ summary, run.result = .ok (.completed summary)) ∧
    path.getLast? ≠ some .classified ∧ path.getLast? ≠ some .emitted ∧
    (∀ p r, Ends l engine host invoke sink s p r → path.getLast? = some p ∧ run.result = r) ∧
    (∀ program status, run.result = .error (.crashed program status) ↔
      (∃ d output, l.Hears engine host invoke d output ∧ output.isSuccess = false ∧
        (∀ line ∈ output.lines, Text.isBlank line = true) ∧
        program = l.compiler ∧ status = output.status) ∨
      (∃ d, l.Launches engine host d ∧
        (invoke (.build l.compiler d)).1 = .error (.crashed program status)) ∨
      ∃ call, l.Aborts engine host invoke sink s (.crashed program status) [call]) ∧
    mismatches run.log = (mismatch? run.result).toList := by
  intro run path
  obtain ⟨p, r, ends⟩ := exists_ends l engine host invoke sink s
  have way : path = p.way := ends.phases_eq
  have last {q : Phase} : path.getLast? = some q ↔ ∃ r, Ends l engine host invoke sink s q r :=
    getLast?_phases_iff
  simp only [← ToolOutput.isSilent_iff]
  refine ⟨?_, ?_, last.trans Ends.idle_iff, last.trans Ends.pathsResolved_iff,
    last.trans result_noFiles_iff.symm, last.trans Ends.commandBuilt_iff,
    last.trans Ends.crashedNoOutput_iff, last.trans Ends.invoked_iff, last.trans Ends.done_iff,
    last.trans result_completed_iff.symm, ?_, ?_, fun p r ends => ⟨last.mpr ⟨r, ends⟩, ends.result_eq⟩,
    fun program status => result_crashed_iff, ?_⟩
  · rw [way]
    exact ends.log_eq.1
  · rw [way]
    exact p.way_isPrefix
  · intro final
    obtain ⟨_, ⟨⟩⟩ := last.mp final
  · intro final
    obtain ⟨_, ⟨⟩⟩ := last.mp final
  · rw [ends.result_eq]
    exact ends.log_eq.2

/-- Two runs that do not end as a crash. An invoker that reports one leaves a run where its
command was built, with the crash for a result; and an invoker that would answer with a
failure and not a word is not asked when there is nothing to lint. -/
theorem run_passes_crash_on :
    let l : Linter := ⟨⟨{ listedPaths := [['/']] }, [], Path.root, none⟩, "protoc"⟩
    let sink : Sink Nat := fun _ _ n => ⟨.ok (), n + 1, []⟩
    let host : Host := { tree := .dir [(("a.proto" : Text), .file [] none)], here := Path.root }
    let reports : Invoker := fun command => (.error (.crashed command.program "signal: 6"), [])
    let empty : Host := { tree := .dir [], here := Path.root }
    let silent : Invoker := fun _ => (.ok ⟨false, "exit status: 1", []⟩, [])
    ((l.run Pattern.dialect host reports sink 0).result = .error (.crashed "protoc" "signal: 6") ∧
      (phases (l.run Pattern.dialect host reports sink 0).log).getLast? = some .commandBuilt) ∧
    (l.run Pattern.dialect empty silent sink 0).result = .ok .noFiles ∧
      (phases (l.run Pattern.dialect empty silent sink 0).log).getLast? = some .pathsResolved := by
  intro l sink host reports empty silent
  let d : Discovery := ⟨Path.root, [Path.root], [⟨"/a.proto"⟩]⟩
  have found : ((Search.resolve Pattern.dialect l.config host).run {}).1 = .ok d := by
    rw [Search.resolve_root (by rfl : host.tree = _) rfl rfl rfl, FileTree.rootFiles_file]
    rfl
  have nothing : ((Search.resolve Pattern.dialect l.config empty).run {}).1 =
      .ok ⟨Path.root, [Path.root], []⟩ := by
    rw [Search.resolve_root (by rfl : empty.tree = _) rfl rfl rfl, FileTree.rootFiles,
      FileTree.schemaFiles, FileTree.batches, List.mergeSort_nil]
    rfl
  have passed : Ends l Pattern.dialect host reports sink 0 .commandBuilt
      (.error (.crashed "protoc" "signal: 6")) :=
    .notStarted ⟨found, List.cons_ne_nil _ _⟩ rfl
  have idle : Ends l Pattern.dialect empty silent sink 0 .pathsResolved (.ok .noFiles) :=
    .noFiles nothing rfl
  exact ⟨⟨passed.result_eq, passed.getLast?_phases⟩, idle.result_eq, idle.getLast?_phases⟩

end Linter

end SchemaLint
