import SchemaLint.Compiler.Output
import SchemaLint.Discovery.Resolver
import SchemaLint.FileTree.Launch
import SchemaLint.Line.Classify
import SchemaLint.Run.Logged

/-!
A run: find the schema files, build the command, run it, read what it printed,
and give the issues to a sink. A clean exit of the compiler means that there are
no issues; a failure with output is how the lint plugin reports them; a failure
without a word is a crash. The first line that cannot be read, names an unknown
file, or whose issue the sink refuses ends the run.

The run is a function of the configuration, the engine for its patterns, the host,
the way commands are run and the sink. It gives its result together with all it
did: the state of the sink, the log, and the command that was run.
-/

namespace SchemaLint

/-- The way commands are run: what the tool printed, or why it did not start,
with what was noted. -/
abbrev Invoker := Command → Except LintError ToolOutput × List Notice

/-- The invoker that launches programs of a host. -/
def Host.invoker (host : Host) : Invoker := fun command =>
  match host.launch command.program command.arguments with
  | .error reason => (.error (.launch command.program reason), [.running command])
  | .ok finished =>
    let output := ToolOutput.ofProcess finished
    (.ok output, [.running command, .exited command.program output.status output.lines.length])

/-- The totals of a run. -/
structure Summary where
  /-- The schema files found. -/
  files : Nat
  /-- The records read from the output. -/
  classified : Nat
  /-- The issues given to the sink. -/
  emitted : Nat
  /-- The records kept back. -/
  suppressed : Nat
  reconciliation : Reconciliation
deriving Repr, DecidableEq

/-- How a run that met no error ended. -/
inductive Outcome where
  /-- There was nothing to lint, and the compiler was not run. -/
  | noFiles
  | completed (summary : Summary)
deriving Repr, DecidableEq

/-- The counts of a run so far. -/
structure Tally where
  classified : Nat := 0
  fromPlugin : Nat := 0
  compilerWarnings : Nat := 0
  emitted : Nat := 0
  suppressed : Nat := 0
deriving Repr, DecidableEq

namespace Tally

/-- The counts with one more record. -/
def add (t : Tally) (r : Record) : Tally :=
  { t with
    classified := t.classified + 1
    fromPlugin := t.fromPlugin + (if r.origin = .plugin then 1 else 0)
    compilerWarnings := t.compilerWarnings + (if r.origin = .compilerWarning then 1 else 0) }

/-- The counts with one more issue. -/
def addEmitted (t : Tally) : Tally := { t with emitted := t.emitted + 1 }

/-- The counts with one more record kept back. -/
def addSuppressed (t : Tally) : Tally := { t with suppressed := t.suppressed + 1 }

end Tally

/-- What a run did. -/
structure Report (σ : Type) where
  result : Except LintError Outcome
  /-- The state that the sink was left in. -/
  sink : σ
  log : List Event
  /-- The command that was given to the invoker, if one was. -/
  command : Option Command

/-- A configuration with the compiler to run. -/
structure Linter where
  config : Config
  compiler : Text := Command.defaultCompiler
deriving Repr

namespace Linter

variable {σ : Type}

/-- Gives the issues of classified lines to a sink, in order, and counts. -/
def emitAll (d : Discovery) (sink : Sink σ) :
    List (Except LineError Record) → Tally → σ → Logged Event σ Tally
  | [], tally, s => ⟨.ok tally, s, []⟩
  | .error e :: _, tally, s => ⟨.error (.line e), s, [.stopped tally.classified e.line]⟩
  | .ok r :: rest, tally, s =>
    let tally := tally.add r
    let noted := [.classified r, .reporting r]
    match r.issue d with
    | .error e => ⟨.error e, s, noted⟩
    | .ok none =>
      (emitAll d sink rest tally.addSuppressed s).after (noted ++ [.suppressed r])
    | .ok (some issue) =>
      let given := sink r issue s
      let noted := noted ++ given.log.map .notice
      match given.result with
      | .error e => ⟨.error e, given.state, noted⟩
      | .ok () => (emitAll d sink rest tally.addEmitted given.state).after noted

/-- The lines of an output to classify and the reported number of issues. A
clean exit has neither, whatever it printed. -/
def capture (output : ToolOutput) : CapturedOutput :=
  if output.isSuccess then {} else CapturedOutput.ofLines output.lines

/-- The events about an output before its lines are classified. -/
def captureEvents (output : ToolOutput) : List Event :=
  if output.isSuccess then
    (if output.isSilent then [] else [.ignoredLines output.lines.length]) ++ [.noIssues]
  else []

/-- The events at the end of a run that completed. -/
def closingEvents (tally : Tally) (r : Reconciliation) : List Event :=
  [.advanced .invoked .classified] ++
    (match r with
      | .mismatch reported parsed => [.countMismatch reported parsed]
      | _ => []) ++
    (if tally.compilerWarnings > 0 then [.compilerWarnings tally.compilerWarnings] else []) ++
    (if tally.classified > 0 then [.reportedIssues tally.emitted] else []) ++
    [.advanced .classified .emitted, .advanced .emitted .done]

/-- The run from the output of the compiler on. -/
def digest (compiler : Text) (d : Discovery) (sink : Sink σ) (output : ToolOutput) (s : σ) :
    Logged Event σ Outcome :=
  if !output.isSuccess && output.isSilent then
    ⟨.error (.crashed compiler output.status), s,
      [.advanced .invoked .crashedNoOutput, .silentCrash]⟩
  else
    let captured := capture output
    let results := Line.classifyAll captured.diagnostics
    let emitted := (emitAll d sink results {} s).after (captureEvents output)
    match emitted.result with
    | .error e => ⟨.error e, emitted.state, emitted.log⟩
    | .ok tally =>
      let reconciliation := reconcile captured.reportedCount tally.fromPlugin
      let summary : Summary :=
        ⟨d.files.length, tally.classified, tally.emitted, tally.suppressed, reconciliation⟩
      ⟨.ok (.completed summary), emitted.state, emitted.log ++ closingEvents tally reconciliation⟩

/-- The run from the discovered files on. -/
def lint (l : Linter) (d : Discovery) (invoke : Invoker) (sink : Sink σ) (s : σ) : Report σ :=
  if d.files.isEmpty then ⟨.ok .noFiles, s, [.nothingToLint], none⟩
  else
    let command := Command.build l.compiler d
    let (answer, noted) := invoke command
    let begun := .advanced .pathsResolved .commandBuilt :: noted.map .notice
    match answer with
    | .error e => ⟨.error e, s, begun, some command⟩
    | .ok output =>
      let rest := digest l.compiler d sink output s
      ⟨rest.result, rest.state, begun ++ .advanced .commandBuilt .invoked :: rest.log,
        some command⟩

/-- A whole run. -/
def run (l : Linter) (engine : PatternEngine) (host : Host) (invoke : Invoker) (sink : Sink σ)
    (s : σ) : Report σ :=
  let (found, search) := (Search.resolve engine l.config host).run {}
  match found with
  | .error reason => ⟨.error (.system reason), s, .started .idle :: search.log, none⟩
  | .ok d =>
    let rest := l.lint d invoke sink s
    { rest with
      log := .started .idle :: search.log ++ .advanced .idle .pathsResolved :: rest.log }

end Linter

end SchemaLint
