import SchemaLint.Pattern.Dialect
import SchemaLint.Proofs.Compiler.Output
import SchemaLint.Proofs.Discovery.Log
import SchemaLint.Proofs.Discovery.Root
import SchemaLint.Proofs.Line.Classifier
import SchemaLint.Run.Basic

/-!
# The pass over the lines of an output

A run whose compiler failed with output goes through the diagnostic lines in
order. `Passed` says that none of some lines fails, from a state of the sink to
another, and `Fails` that the next line does: it cannot be read, its record names
no discovered file, or the sink refuses its issue. Either all lines pass or there
is a first that fails (`passed_or_fails`).

`emitAll_passed` carries the pass over the lines that come first, and
`emitAll_fails` stops it at the one that fails. Neither asks anything of the
sink, so both hold of the sink that keeps its calls (`Sink.recorded`), which is
how the calls of a run are stated.
-/

namespace SchemaLint

open Line Linter

variable {σ : Type} {d : Discovery} {sink : Sink σ}

/-- The sink that keeps its calls too, taken and refused, in order. -/
def Sink.recorded (sink : Sink σ) : Sink (σ × List (Record × Issue)) := fun record issue s =>
  let given := sink record issue s.1
  ⟨given.result, (given.state, s.2 ++ [(record, issue)]), given.log⟩

/-- The record that an event says was read. -/
def Event.reading? : Event → Option Record
  | .classified record => some record
  | _ => none

/-- The records that were read, by a log. -/
def readings (log : List Event) : List Record := log.filterMap Event.reading?

theorem readings_append (a b : List Event) : readings (a ++ b) = readings a ++ readings b :=
  List.filterMap_append

theorem readings_notices (notices : List Notice) : readings (notices.map .notice) = [] := by
  simp [readings, Event.reading?, List.filterMap_map, Function.comp_def]

/-! ## Lines that pass and lines that fail -/

/-- The records of lines with their issues, as the sink is to be called with. -/
def issues (d : Discovery) (records : List Record) : List (Record × Issue) :=
  records.filterMap fun r =>
    match r.issue d with
    | .ok (some issue) => some (r, issue)
    | _ => none

/-- None of the lines fails: each is read, and its record is kept back or has an
issue that the sink takes. -/
inductive Passed (d : Discovery) (sink : Sink σ) : List Text → σ → List Record → σ → Prop
  | nil {s} : Passed d sink [] s [] s
  | kept {line lines s r records t} :
      classify line = .ok r →
      r.isSuppressed = true →
      Passed d sink lines s records t →
      Passed d sink (line :: lines) s (r :: records) t
  | taken {line lines s r issue records t} :
      classify line = .ok r →
      r.issue d = .ok (some issue) →
      (sink r issue s).result = .ok () →
      Passed d sink lines (sink r issue s).state records t →
      Passed d sink (line :: lines) s (r :: records) t

/-- The line fails with an error: the records read before it is known, the calls
of the sink, and the state that the sink is left in. -/
inductive Fails (d : Discovery) (sink : Sink σ) (line : Text) (s : σ) :
    LintError → List Record → List (Record × Issue) → σ → Prop
  | unreadable {e} : classify line = .error e → Fails d sink line s (.line e) [] [] s
  | unresolved {r} :
      classify line = .ok r →
      r.isSuppressed = false →
      d.find? r.file = none →
      Fails d sink line s (.unresolved r.file) [r] [] s
  | refused {r issue e} :
      classify line = .ok r →
      r.issue d = .ok (some issue) →
      (sink r issue s).result = .error e →
      Fails d sink line s e [r] [(r, issue)] (sink r issue s).state

theorem issue_of_isSuppressed {r : Record} (suppressed : r.isSuppressed = true) :
    r.issue d = .ok none := by
  rw [Record.issue, if_pos suppressed]

theorem issue_of_find?_eq_none {r : Record} (reported : r.isSuppressed = false)
    (unknown : d.find? r.file = none) : r.issue d = .error (.unresolved r.file) := by
  simp [Record.issue, reported, Discovery.location, unknown]

theorem isSuppressed_of_issue {r : Record} {issue : Issue} (made : r.issue d = .ok (some issue)) :
    r.isSuppressed = false := by
  cases suppressed : r.isSuppressed with
  | false => rfl
  | true =>
    rw [issue_of_isSuppressed suppressed] at made
    cases made

/-- A record that is reported and names a discovered file has an issue. -/
theorem exists_issue {r : Record} {p : Path} (reported : r.isSuppressed = false)
    (known : d.find? r.file = some p) : ∃ issue, r.issue d = .ok (some issue) := by
  simp [Record.issue, reported, Discovery.location, known]

theorem issues_cons_of_isSuppressed {r : Record} (suppressed : r.isSuppressed = true)
    (records : List Record) : issues d (r :: records) = issues d records := by
  rw [issues, List.filterMap_cons_none (by rw [issue_of_isSuppressed suppressed]), issues]

theorem issues_cons_of_issue {r : Record} {issue : Issue} (made : r.issue d = .ok (some issue))
    (records : List Record) : issues d (r :: records) = (r, issue) :: issues d records := by
  rw [issues, List.filterMap_cons_some (by rw [made]), issues]

/-- A line passes, whatever comes after it, or it fails. -/
theorem passes_or_fails (d : Discovery) (sink : Sink σ) (line : Text) (s : σ) :
    (∃ r t, ∀ {lines records u}, Passed d sink lines t records u →
      Passed d sink (line :: lines) s (r :: records) u) ∨
      ∃ e read calls t, Fails d sink line s e read calls t := by
  cases read : classify line with
  | error e => exact Or.inr ⟨_, _, _, _, .unreadable read⟩
  | ok r =>
    cases suppressed : r.isSuppressed with
    | true => exact Or.inl ⟨r, s, .kept read suppressed⟩
    | false =>
      cases known : d.find? r.file with
      | none => exact Or.inr ⟨_, _, _, _, .unresolved read suppressed known⟩
      | some p =>
        obtain ⟨issue, made⟩ := exists_issue suppressed known
        cases result : (sink r issue s).result with
        | error e => exact Or.inr ⟨_, _, _, _, .refused read made result⟩
        | ok _ => exact Or.inl ⟨r, (sink r issue s).state, .taken read made result⟩

/-- Either all lines pass or there is a first line that fails. -/
theorem passed_or_fails (d : Discovery) (sink : Sink σ) (lines : List Text) (s : σ) :
    (∃ records t, Passed d sink lines s records t) ∨
      ∃ before line after records t e read calls t', lines = before ++ line :: after ∧
        Passed d sink before s records t ∧ Fails d sink line t e read calls t' := by
  induction lines generalizing s with
  | nil => exact Or.inl ⟨[], s, .nil⟩
  | cons line lines ih =>
    rcases passes_or_fails d sink line s with ⟨r, t, goesOn⟩ | ⟨e, read, calls, t, fails⟩
    · rcases ih t with ⟨records, u, passed⟩ |
        ⟨before, failing, after, records, u, e, read, calls, u', rfl, passed, fails⟩
      · exact Or.inl ⟨r :: records, u, goesOn passed⟩
      · exact Or.inr ⟨line :: before, failing, after, r :: records, u, e, read, calls, u', rfl,
          goesOn passed, fails⟩
    · exact Or.inr ⟨[], line, lines, [], s, e, read, calls, t, rfl, .nil, fails⟩

namespace Passed

variable {lines : List Text} {s t : σ} {records : List Record}

/-- The records are those of the lines. -/
theorem classify_eq (passed : Passed d sink lines s records t) :
    lines.map classify = records.map .ok := by
  induction passed with
  | nil => rfl
  | kept read _ _ ih | taken read _ _ _ ih => rw [List.map_cons, List.map_cons, read, ih]

theorem length_eq (passed : Passed d sink lines s records t) : records.length = lines.length := by
  simpa using (congrArg List.length passed.classify_eq).symm

/-- Every record that is not kept back has an issue. -/
theorem length_issues (passed : Passed d sink lines s records t) :
    (issues d records).length = records.countP fun r => !r.isSuppressed := by
  induction passed with
  | nil => rfl
  | kept read suppressed _ ih =>
    rw [issues_cons_of_isSuppressed suppressed, ih, List.countP_cons_of_neg (by simp [suppressed])]
  | taken read made _ _ ih =>
    rw [issues_cons_of_issue made, List.length_cons, ih,
      List.countP_cons_of_pos (by simp [isSuppressed_of_issue made])]

/-- Keeping the calls changes nothing else, and keeps the issues of the lines. -/
theorem recorded (passed : Passed d sink lines s records t) (calls : List (Record × Issue)) :
    Passed d sink.recorded lines (s, calls) records (t, calls ++ issues d records) := by
  induction passed generalizing calls with
  | nil => simpa [issues] using Passed.nil
  | kept read suppressed _ ih =>
    rw [issues_cons_of_isSuppressed suppressed]
    exact .kept read suppressed (ih calls)
  | @taken _ _ _ r issue _ _ read made result _ ih =>
    rw [issues_cons_of_issue made, List.append_cons]
    exact .taken read made result (ih (calls ++ [(r, issue)]))

end Passed

theorem Fails.recorded {line : Text} {s t : σ} {e : LintError} {read : List Record}
    {calls : List (Record × Issue)} (fails : Fails d sink line s e read calls t)
    (before : List (Record × Issue)) :
    Fails d sink.recorded line (s, before) e read calls (t, before ++ calls) := by
  cases fails with
  | unreadable read => simpa using Fails.unreadable read
  | unresolved read reported unknown => simpa using Fails.unresolved read reported unknown
  | refused read made result => exact .refused read made result

/-! ## The counts -/

namespace Tally

/-- The counts with one more record of a line that passed. -/
def count (tally : Tally) (r : Record) : Tally :=
  if r.isSuppressed then (tally.add r).addSuppressed else (tally.add r).addEmitted

theorem foldl_count (records : List Record) (tally : Tally) :
    records.foldl count tally =
      { classified := tally.classified + records.length
        fromPlugin := tally.fromPlugin + records.countP fun r => r.origin = .plugin
        compilerWarnings := tally.compilerWarnings + records.countP fun r =>
          r.origin = .compilerWarning
        emitted := tally.emitted + records.countP fun r => !r.isSuppressed
        suppressed := tally.suppressed + records.countP fun r => r.isSuppressed } := by
  induction records generalizing tally with
  | nil => rfl
  | cons r records ih =>
    rw [List.foldl_cons, ih]
    cases suppressed : r.isSuppressed <;>
      simp [count, add, addSuppressed, addEmitted, suppressed, List.countP_cons] <;> omega

end Tally

/-! ## The pass -/

theorem Logged.after_after {ε α : Type} (a b : List ε) (l : Logged ε σ α) :
    (l.after b).after a = l.after (a ++ b) := by
  simp [Logged.after]

section

variable {r : Record} {issue : Issue} {s : σ}

theorem emitAll_kept (suppressed : r.isSuppressed = true) (results : List (Except LineError Record))
    (tally : Tally) :
    emitAll d sink (.ok r :: results) tally s =
      (emitAll d sink results (tally.count r) s).after
        [.classified r, .reporting r, .suppressed r] := by
  rw [emitAll, issue_of_isSuppressed suppressed, Tally.count, if_pos suppressed]
  rfl

theorem emitAll_taken (made : r.issue d = .ok (some issue))
    (result : (sink r issue s).result = .ok ()) (results : List (Except LineError Record))
    (tally : Tally) :
    emitAll d sink (.ok r :: results) tally s =
      (emitAll d sink results (tally.count r) (sink r issue s).state).after
        ([.classified r, .reporting r] ++ (sink r issue s).log.map .notice) := by
  rw [emitAll, made, Tally.count, if_neg (by simp [isSuppressed_of_issue made])]
  simp only [result]

end

/-- A pass goes over the lines that do not fail and on to the others. -/
theorem emitAll_passed {before : List Text} {s t : σ} {records : List Record}
    (passed : Passed d sink before s records t)
    (spoken : ∀ line ∈ before, Text.isBlank line = false) (rest : List Text) (tally : Tally) :
    ∃ noted, readings noted = records ∧
      emitAll d sink (classifyAll (before ++ rest)) tally s =
        (emitAll d sink (classifyAll rest) (records.foldl Tally.count tally) t).after noted := by
  induction passed generalizing tally with
  | nil => exact ⟨[], rfl, rfl⟩
  | @kept line lines s r records t read suppressed _ ih =>
    obtain ⟨first, spoken⟩ := List.forall_mem_cons.mp spoken
    obtain ⟨noted, readings, carried⟩ := ih spoken (tally.count r)
    refine ⟨[.classified r, .reporting r, .suppressed r] ++ noted, ?_, ?_⟩
    · rw [readings_append, readings]
      rfl
    · rw [List.cons_append, classifyAll_cons_ok first read, List.foldl_cons,
        ← Logged.after_after, ← carried]
      exact emitAll_kept suppressed _ _
  | @taken line lines s r issue records t read made result _ ih =>
    obtain ⟨first, spoken⟩ := List.forall_mem_cons.mp spoken
    obtain ⟨noted, readings, carried⟩ := ih spoken (tally.count r)
    refine ⟨([.classified r, .reporting r] ++ (sink r issue s).log.map .notice) ++ noted, ?_, ?_⟩
    · rw [readings_append, readings_append, readings_notices, readings]
      rfl
    · rw [List.cons_append, classifyAll_cons_ok first read, List.foldl_cons,
        ← Logged.after_after, ← carried]
      exact emitAll_taken made result _ _

/-- A line that fails ends the pass, whatever comes after it. -/
theorem emitAll_fails {line : Text} {s t : σ} {e : LintError} {read : List Record}
    {calls : List (Record × Issue)} (fails : Fails d sink line s e read calls t)
    (spoken : Text.isBlank line = false) (rest : List Text) (tally : Tally) :
    ∃ noted, readings noted = read ∧
      emitAll d sink (classifyAll (line :: rest)) tally s = ⟨.error e, t, noted⟩ := by
  cases fails with
  | unreadable read =>
    rw [classifyAll_cons_error spoken read]
    exact ⟨_, rfl, rfl⟩
  | @unresolved r read reported unknown =>
    refine ⟨[.classified r, .reporting r], rfl, ?_⟩
    rw [classifyAll_cons_ok spoken read]
    simp only [emitAll, issue_of_find?_eq_none reported unknown]
  | @refused r issue e read made result =>
    refine ⟨[.classified r, .reporting r] ++ (sink r issue s).log.map .notice, ?_, ?_⟩
    · rw [readings_append, readings_notices]
      rfl
    · rw [classifyAll_cons_ok spoken read]
      simp only [emitAll, made, result]

/-! ## The whole run -/

namespace ToolOutput

/-- The lines of an output that are to be classified. -/
def diagnostics (output : ToolOutput) : List Text :=
  output.lines.filter CapturedOutput.isDiagnostic

theorem spoken_of_mem_diagnostics {output : ToolOutput} :
    ∀ line ∈ output.diagnostics, Text.isBlank line = false :=
  fun _ held => CapturedOutput.isBlank_of_isDiagnostic (List.mem_filter.mp held).2

end ToolOutput

namespace Linter

/-- The calls that a run makes of its sink. -/
def calls (l : Linter) (engine : PatternEngine) (host : Host) (invoke : Invoker) (sink : Sink σ)
    (s : σ) : List (Record × Issue) :=
  (l.run engine host invoke sink.recorded (s, [])).sink.2

section

variable {l : Linter} {engine : PatternEngine} {host : Host} {invoke : Invoker}
  {output : ToolOutput} {s : σ}

theorem readings_search {c : Config} {host : Host} :
    readings ((Search.resolve engine c host).run {}).2.log = [] := by
  refine List.filterMap_eq_nil_iff.mpr fun e held => ?_
  cases e with
  | classified record => cases Search.isSearch_of_mem_log held
  | _ => rfl

/-- A run whose compiler answered goes on with the answer. -/
theorem run_eq (found : ((Search.resolve engine l.config host).run {}).1 = .ok d)
    (nonempty : d.files ≠ []) (answered : (invoke (.build l.compiler d)).1 = .ok output)
    (sink : Sink σ) (s : σ) :
    ∃ opening, readings opening = [] ∧
      l.run engine host invoke sink s =
        { result := (digest l.compiler d sink output s).result
          sink := (digest l.compiler d sink output s).state
          log := opening ++ (digest l.compiler d sink output s).log
          command := some (.build l.compiler d) } := by
  have searched : readings ((Search.resolve engine l.config host).run {}).2.log = [] :=
    readings_search
  cases resolved : (Search.resolve engine l.config host).run {} with
  | mk result search =>
  cases ran : invoke (.build l.compiler d) with
  | mk answer noted =>
  rw [resolved] at found searched
  rw [ran] at answered
  cases found
  cases answered
  refine ⟨.started .idle :: search.log ++
    [.advanced .idle .pathsResolved, .advanced .pathsResolved .commandBuilt] ++
    noted.map .notice ++ [.advanced .commandBuilt .invoked], ?_, ?_⟩
  · rw [← List.singleton_append]
    simp only [readings_append, readings_notices, searched]
    rfl
  · simp [run, lint, resolved, ran, nonempty]

/-- The lines of a compiler that failed with output are passed over in order. -/
theorem digest_eq (failed : output.isSuccess = false)
    (spoken : ∃ line ∈ output.lines, Text.isBlank line = false) (compiler : Text) (sink : Sink σ)
    (s : σ) :
    digest compiler d sink output s =
      let pass := emitAll d sink (classifyAll output.diagnostics) {} s
      match pass.result with
      | .error e => ⟨.error e, pass.state, pass.log⟩
      | .ok tally =>
        let reconciliation :=
          reconcile (CapturedOutput.ofLines output.lines).reportedCount tally.fromPlugin
        ⟨.ok (.completed ⟨d.files.length, tally.classified, tally.emitted, tally.suppressed,
          reconciliation⟩), pass.state, pass.log ++ closingEvents tally reconciliation⟩ := by
  rw [digest, if_neg (by simp [ToolOutput.isSilent_eq_false_iff.mpr spoken]), capture,
    captureEvents, failed]
  simp only [Bool.false_eq_true, if_false, CapturedOutput.ofLines_diagnostics]
  rfl

theorem readings_closingEvents (tally : Tally) (r : Reconciliation) :
    readings (closingEvents tally r) = [] := by
  refine List.filterMap_eq_nil_iff.mpr fun e held => ?_
  cases e with
  | classified record => cases r <;> simp [closingEvents] at held
  | _ => rfl

variable (found : ((Search.resolve engine l.config host).run {}).1 = .ok d) (nonempty : d.files ≠ [])
  (answered : (invoke (.build l.compiler d)).1 = .ok output) (failed : output.isSuccess = false)
  (spoken : ∃ line ∈ output.lines, Text.isBlank line = false)
include found nonempty answered failed spoken

/-- A run ends with the error of the first line that fails, and reads no line
after it. -/
theorem run_of_fails {before after : List Text} {line : Text} {records read : List Record}
    {t t' : σ} {e : LintError} {refused : List (Record × Issue)}
    (split : output.diagnostics = before ++ line :: after)
    (passed : Passed d sink before s records t) (fails : Fails d sink line t e read refused t') :
    (l.run engine host invoke sink s).result = .error e ∧
      (l.run engine host invoke sink s).sink = t' ∧
      readings (l.run engine host invoke sink s).log = records ++ read := by
  obtain ⟨opening, quiet, run⟩ := run_eq found nonempty answered sink s
  have allSpoken := output.spoken_of_mem_diagnostics
  rw [split] at allSpoken
  obtain ⟨noted, first, carried⟩ := emitAll_passed passed
    (fun line held => allSpoken line (List.mem_append_left _ held)) (line :: after) {}
  obtain ⟨last, rest, stopped⟩ := emitAll_fails fails
    (allSpoken line (List.mem_append_right _ List.mem_cons_self)) after
    (records.foldl Tally.count {})
  rw [run, digest_eq failed spoken, split, carried, stopped]
  refine ⟨rfl, rfl, ?_⟩
  show readings (opening ++ (noted ++ last)) = _
  rw [readings_append, readings_append, quiet, first, rest, List.nil_append]

/-- A run whose lines all pass completes, with the counts of their records. -/
theorem run_of_passed {records : List Record} {t : σ}
    (passed : Passed d sink output.diagnostics s records t) :
    (l.run engine host invoke sink s).result =
        .ok (.completed
          { files := d.files.length
            classified := output.diagnostics.length
            emitted := (issues d records).length
            suppressed := records.countP fun r => r.isSuppressed
            reconciliation := reconcile (CapturedOutput.ofLines output.lines).reportedCount
              (records.countP fun r => r.origin = .plugin) }) ∧
      (l.run engine host invoke sink s).sink = t ∧
      readings (l.run engine host invoke sink s).log = records := by
  obtain ⟨opening, quiet, run⟩ := run_eq found nonempty answered sink s
  obtain ⟨noted, first, carried⟩ :=
    emitAll_passed passed output.spoken_of_mem_diagnostics [] {}
  rw [List.append_nil] at carried
  rw [run, digest_eq failed spoken, carried, passed.length_issues, ← passed.length_eq,
    Tally.foldl_count]
  refine ⟨?_, rfl, ?_⟩
  · simp [classifyAll, emitAll, Logged.after]
  · show readings (opening ++ ((noted ++ []) ++ closingEvents _ _)) = _
    rw [readings_append, readings_append, readings_append, quiet, first, readings_closingEvents,
      List.nil_append, List.append_nil]
    exact List.append_nil _

/-- A run over the output of a compiler that failed is a pass over the diagnostic
lines in order, which ends at the first that fails. What comes before it is
given to the sink, each issue once; what comes after it is not even read. When
no line fails, the run completes, and its counts add up. -/
theorem run_pass (sink : Sink σ) (s : σ) :
    ((∃ records t, Passed d sink output.diagnostics s records t) ∨
      ∃ before line after records t e read refused t',
        output.diagnostics = before ++ line :: after ∧ Passed d sink before s records t ∧
          Fails d sink line t e read refused t') ∧
    (∀ before line after records t e read refused t',
      output.diagnostics = before ++ line :: after → Passed d sink before s records t →
      Fails d sink line t e read refused t' →
      (l.run engine host invoke sink s).result = .error e ∧
        l.calls engine host invoke sink s = issues d records ++ refused ∧
        (l.run engine host invoke sink s).sink = t' ∧
        readings (l.run engine host invoke sink s).log = records ++ read) ∧
    ∀ records t, Passed d sink output.diagnostics s records t →
      l.calls engine host invoke sink s = issues d records ∧
      (l.run engine host invoke sink s).sink = t ∧
      readings (l.run engine host invoke sink s).log = records ∧
      ∃ summary, (l.run engine host invoke sink s).result = .ok (.completed summary) ∧
        summary.files = d.files.length ∧
        summary.classified = output.diagnostics.length ∧
        summary.emitted = (l.calls engine host invoke sink s).length ∧
        summary.suppressed = (records.countP fun r => r.kind = .compile .fileNotFound) ∧
        summary.classified = summary.emitted + summary.suppressed ∧
        summary.reconciliation = reconcile (CapturedOutput.ofLines output.lines).reportedCount
          (records.countP fun r => r.origin = .plugin) := by
  refine ⟨passed_or_fails d sink output.diagnostics s, ?_, ?_⟩
  · intro before line after records t e read refused t' split passed fails
    obtain ⟨result, state, log⟩ :=
      run_of_fails found nonempty answered failed spoken split passed fails
    obtain ⟨-, recorded, -⟩ := run_of_fails found nonempty answered failed spoken split
      (passed.recorded []) (fails.recorded _)
    exact ⟨result, congrArg Prod.snd recorded, state, log⟩
  · intro records t passed
    obtain ⟨result, state, log⟩ := run_of_passed found nonempty answered failed spoken passed
    obtain ⟨-, recorded, -⟩ :=
      run_of_passed found nonempty answered failed spoken (passed.recorded [])
    have calls : l.calls engine host invoke sink s = issues d records := congrArg Prod.snd recorded
    refine ⟨calls, state, log, _, result, rfl, rfl, by rw [calls], rfl, ?_, rfl⟩
    have parts := List.length_eq_countP_add_countP (fun r : Record => r.isSuppressed) (l := records)
    simp only [Bool.not_eq_true, Bool.decide_eq_false] at parts
    show output.diagnostics.length =
      (issues d records).length + records.countP fun r => r.isSuppressed
    rw [passed.length_issues, ← passed.length_eq]
    omega

end

/-- A run that gives an issue to a sink that counts, keeps a file that was not
found back, and ends at an issue in a file that was not discovered, before a line
that could not be read either. -/
theorem run_pass_unresolved :
    let output : ToolOutput := ⟨false, "exit status: 1", ["a.proto:3:7: Missing field number.", "",
      "gone.proto: File not found.", "b.proto: Missing field number.", "?"]⟩
    let host : Host := { tree := .dir [(("a.proto" : Text), .file [] none)], here := Path.root }
    let l : Linter := ⟨⟨{ listedPaths := [['/']] }, [], Path.root, none⟩, "protoc"⟩
    let invoke : Invoker := fun _ => (.ok output, [])
    let sink : Sink Nat := fun _ _ n => ⟨.ok (), n + 1, []⟩
    (l.run Pattern.dialect host invoke sink 0).result = .error (.unresolved "b.proto") ∧
      (l.run Pattern.dialect host invoke sink 0).sink = 1 ∧
      (readings (l.run Pattern.dialect host invoke sink 0).log).length = 3 := by
  intro output host l invoke sink
  let d : Discovery := ⟨Path.root, [Path.root], [⟨"/a.proto"⟩]⟩
  have found : ((Search.resolve Pattern.dialect l.config host).run {}).1 = .ok d := by
    rw [Search.resolve_root (by rfl : host.tree = _) rfl rfl rfl, FileTree.rootFiles_file]
    rfl
  have lines : output.diagnostics = (["a.proto:3:7: Missing field number.",
      "gone.proto: File not found.", "b.proto: Missing field number.", "?"] : List Text) := by
    decide
  have first : classify "a.proto:3:7: Missing field number." =
      .ok (.make (.compile .missingFieldNumber) .compiler "a.proto:3:7: Missing field number."
        "a.proto" 3 7 none) := by
    rfl
  have second : classify "gone.proto: File not found." =
      .ok (.make (.compile .fileNotFound) .compiler "gone.proto: File not found." "gone.proto" 1 1
        none) := by
    rfl
  have third : classify "b.proto: Missing field number." =
      .ok (.make (.compile .missingFieldNumber) .compiler "b.proto: Missing field number."
        "b.proto" 1 1 none) := by
    rfl
  have known : d.find? "a.proto" = some ⟨"/a.proto"⟩ := by decide
  have unknown : d.find? "b.proto" = none := by decide
  obtain ⟨issue, made⟩ := exists_issue (d := d) (r := .make (.compile .missingFieldNumber) .compiler
    "a.proto:3:7: Missing field number." "a.proto" 3 7 none) rfl known
  have passed : Passed d sink _ 0 _ 1 := .taken first made rfl (.kept second rfl .nil)
  have answered : (invoke (.build l.compiler d)).1 = .ok output := rfl
  obtain ⟨-, ends, -⟩ :=
    run_pass found (by decide) answered rfl ⟨"?", by decide, by decide⟩ sink 0
  obtain ⟨result, -, state, log⟩ :=
    ends _ _ _ _ _ _ _ _ _ lines passed (.unresolved third rfl unknown)
  exact ⟨result, state, congrArg List.length log⟩

end Linter

end SchemaLint
