import SchemaLint.Pattern.Dialect
import SchemaLint.Proofs.CommandLine
import SchemaLint.Proofs.Discovery.Find
import SchemaLint.Proofs.FileTree.Launch
import SchemaLint.Proofs.Run.Idle
import SchemaLint.Proofs.Run.Resolved
import SchemaLint.Session

/-!
# How a session ends

A session with a request ends in one of seven ways (`Session.Ending`): by its
configuration, for want of files, with a compiler that does not start, ends well or
fails without a word, after all lines of the output, or at the first line that cannot
be read or names no discovered file. Each way has its exit code and its issues, and
standard output is the stream of these (`Session.run_ends`): nothing that was written
before a failure is taken back, and nothing is written in part.
-/

namespace SchemaLint

open Line (classify)

theorem Config.workspace_of_ofText {t : Text} {workspace : Path} {config : Config}
    (read : ofText t workspace = .ok config) : config.workspace = workspace := by
  unfold ofText at read
  split at read
  · cases read
  · split at read
    · cases read
      rfl
    · cases read
  · cases read

/-- A configuration has the workspace that it was read for. -/
theorem Config.workspace_of_ofFile {host : Host} {file workspace : Path} {config : Config}
    (loaded : ofFile host file workspace = .ok config) : config.workspace = workspace := by
  unfold ofFile at loaded
  split at loaded
  · cases loaded
  · next t _ =>
    cases read : ofText t workspace with
    | error e =>
      rw [read] at loaded
      cases loaded
    | ok c =>
      rw [read] at loaded
      cases loaded
      have same := workspace_of_ofText read
      exact same

namespace Session

/-! ## The ways to end -/

/-- The configuration of a request loads, and the search finds files or none. -/
structure Discovers (request : LintRequest) (engine : PatternEngine) (host : Host) (config : Config)
    (d : Discovery) : Prop where
  loaded : Config.ofFile host request.config request.workspace = .ok config
  found : ((Search.resolve engine config host).run {}).1 = .ok d

/-- There are files, and the compiler runs on them with this output. -/
structure Answers (request : LintRequest) (engine : PatternEngine) (host : Host) (config : Config)
    (d : Discovery) (output : ToolOutput) : Prop extends Discovers request engine host config d where
  nonempty : d.files ≠ []
  answered : (host.invoker (.build request.compiler d)).1 = .ok output

/-- The ways in which a session with a request ends, with the exit code and the
issues of each. -/
inductive Ending (request : LintRequest) (engine : PatternEngine) (host : Host) :
    Nat → List Issue → Prop where
  | misconfigured {e : ConfigError}
      (refused : Config.ofFile host request.config request.workspace = .error e) :
      Ending request engine host ExitCode.failure []
  | noFiles {config : Config} {d : Discovery} (discovers : Discovers request engine host config d)
      (empty : d.files = []) : Ending request engine host ExitCode.success []
  | notStarted {config : Config} {d : Discovery} {e : LintError}
      (discovers : Discovers request engine host config d) (nonempty : d.files ≠ [])
      (refused : (host.invoker (.build request.compiler d)).1 = .error e) :
      Ending request engine host ExitCode.failure []
  | clean {config : Config} {d : Discovery} {output : ToolOutput}
      (answers : Answers request engine host config d output) (clean : output.isSuccess = true) :
      Ending request engine host ExitCode.success []
  | crashed {config : Config} {d : Discovery} {output : ToolOutput}
      (answers : Answers request engine host config d output) (failed : output.isSuccess = false)
      (silent : output.isSilent = true) : Ending request engine host ExitCode.failure []
  | passed {config : Config} {d : Discovery} {output : ToolOutput} {records : List Record}
      (answers : Answers request engine host config d output) (failed : output.isSuccess = false)
      (spoken : output.isSilent = false) (resolved : Resolved d output.diagnostics records) :
      Ending request engine host ExitCode.success ((issues d records).map (·.2))
  | stopped {config : Config} {d : Discovery} {output : ToolOutput} {before after : List Text}
      {line : Text} {records : List Record}
      (answers : Answers request engine host config d output) (failed : output.isSuccess = false)
      (spoken : output.isSilent = false) (split : output.diagnostics = before ++ line :: after)
      (resolved : Resolved d before records) (offends : Offends d line) :
      Ending request engine host ExitCode.failure ((issues d records).map (·.2))

/-- The run of a request with its configuration, which writes issues to standard
output. -/
def report (request : LintRequest) (engine : PatternEngine) (host : Host) (config : Config) :
    Report IssueWriter :=
  (⟨config, request.compiler⟩ : Linter).run engine host host.invoker IssueWriter.emit {}

section

variable {request : LintRequest} {engine : PatternEngine} {host : Host} {config : Config}
  {code : Nat} {written : List Issue}

/-- An ending without a configuration, or the result of a run with what its writer
wrote. -/
def Ending.Outcome (request : LintRequest) (engine : PatternEngine) (host : Host) (code : Nat)
    (written : List Issue) : Prop :=
  (∃ e, Config.ofFile host request.config request.workspace = .error e ∧
      code = ExitCode.failure ∧ written = []) ∨
    ∃ config, Config.ofFile host request.config request.workspace = .ok config ∧
      (report request engine host config).sink = .having written ∧
      ((∃ e, (report request engine host config).result = .error e ∧ code = ExitCode.failure) ∨
        ∃ outcome, (report request engine host config).result = .ok outcome ∧ code = ExitCode.success ∧
          ∀ summary, outcome = .completed summary → summary.emitted = written.length)

/-- Each way to end is what comes of the run. -/
theorem Ending.outcome (ending : Ending request engine host code written) :
    Outcome request engine host code written := by
  cases ending with
  | misconfigured refused => exact Or.inl ⟨_, refused, rfl, rfl⟩
  | @noFiles config _ discovers empty =>
    obtain ⟨result, sink⟩ := Linter.run_of_noFiles (l := ⟨config, request.compiler⟩)
      discovers.found empty IssueWriter.emit {}
    exact Or.inr ⟨config, discovers.loaded, sink, Or.inr ⟨_, result, rfl, nofun⟩⟩
  | @notStarted config _ _ discovers nonempty refused =>
    obtain ⟨result, sink⟩ := Linter.run_of_notStarted (l := ⟨config, request.compiler⟩)
      discovers.found nonempty refused IssueWriter.emit {}
    exact Or.inr ⟨config, discovers.loaded, sink, Or.inl ⟨_, result, rfl⟩⟩
  | @clean config _ _ answers clean =>
    obtain ⟨⟨summary, result, emitted⟩, sink⟩ := Linter.run_of_clean
      (l := ⟨config, request.compiler⟩) answers.found answers.nonempty answers.answered clean
      IssueWriter.emit {}
    refine Or.inr ⟨config, answers.loaded, sink, Or.inr ⟨_, result, rfl, ?_⟩⟩
    rintro _ ⟨⟩
    exact emitted
  | @crashed config _ _ answers failed silent =>
    obtain ⟨result, sink⟩ := Linter.run_of_silent (l := ⟨config, request.compiler⟩)
      answers.found answers.nonempty answers.answered failed silent IssueWriter.emit {}
    exact Or.inr ⟨config, answers.loaded, sink, Or.inl ⟨_, result, rfl⟩⟩
  | @passed config _ _ records answers failed spoken resolved =>
    obtain ⟨result, sink, -⟩ := Linter.run_of_passed (l := ⟨config, request.compiler⟩)
      answers.found answers.nonempty answers.answered failed
      (ToolOutput.isSilent_eq_false_iff.mp spoken) (resolved.passed [])
    refine Or.inr ⟨config, answers.loaded, sink, Or.inr ⟨_, result, rfl, ?_⟩⟩
    rintro _ ⟨⟩
    exact (List.length_map _).symm
  | @stopped config _ _ before after line records answers failed spoken split resolved offends =>
    obtain ⟨e, read, fails⟩ := offends.fails IssueWriter.emit
      (.having ([] ++ (issues _ records).map (·.2)))
    obtain ⟨result, sink, -⟩ := Linter.run_of_fails (l := ⟨config, request.compiler⟩)
      answers.found answers.nonempty answers.answered failed
      (ToolOutput.isSilent_eq_false_iff.mp spoken) split (resolved.passed []) fails
    exact Or.inr ⟨config, answers.loaded, sink, Or.inl ⟨_, result, rfl⟩⟩

/-- The positions of all issues of an ending fit. -/
theorem Ending.fits (ending : Ending request engine host code written) : ∀ i ∈ written, i.Fits := by
  cases ending with
  | passed _ _ _ resolved => exact resolved.fits
  | stopped _ _ _ _ resolved _ => exact resolved.fits
  | _ => exact nofun

/-- A session whose request names a workspace ends in one of the ways. -/
theorem exists_ending (named : request.workspace.text ≠ []) :
    ∃ code written, Ending request engine host code written := by
  cases loaded : Config.ofFile host request.config request.workspace with
  | error e => exact ⟨_, _, .misconfigured loaded⟩
  | ok config =>
    have workspace : config.workspace = request.workspace := Config.workspace_of_ofFile loaded
    obtain ⟨root, rooted⟩ : ∃ root, config.workspaceRoot host.here = .ok root := by
      unfold Config.workspaceRoot
      split
      · exact ⟨_, rfl⟩
      · rw [workspace, if_neg named]
        exact ⟨_, rfl⟩
    obtain ⟨d, found, -, -⟩ := Search.returns_resolve rooted {}
    have discovers : Discovers request engine host config d := ⟨loaded, found⟩
    by_cases empty : d.files = []
    · exact ⟨_, _, .noFiles discovers empty⟩
    · cases answered : (host.invoker (.build request.compiler d)).1 with
      | error e => exact ⟨_, _, .notStarted discovers empty answered⟩
      | ok output =>
        have answers : Answers request engine host config d output := ⟨discovers, empty, answered⟩
        cases success : output.isSuccess with
        | true => exact ⟨_, _, .clean answers success⟩
        | false =>
          cases silent : output.isSilent with
          | true => exact ⟨_, _, .crashed answers success silent⟩
          | false =>
            rcases resolved_or_offends d output.diagnostics with ⟨records, resolved⟩ |
              ⟨before, line, after, records, split, resolved, offends⟩
            · exact ⟨_, _, .passed answers success silent resolved⟩
            · exact ⟨_, _, .stopped answers success silent split resolved offends⟩

/-! ## Exit code and standard output -/

/-- Without a configuration nothing is written. -/
theorem lint_of_error {e : ConfigError}
    (refused : Config.ofFile host request.config request.workspace = .error e) :
    (lint request engine host).exitCode = ExitCode.failure ∧ (lint request engine host).stdout = [] := by
  rw [lint, refused]
  exact ⟨rfl, rfl⟩

/-- With one, exit code and standard output are those of the run. -/
theorem lint_of_ok (loaded : Config.ofFile host request.config request.workspace = .ok config) :
    (lint request engine host).stdout = (report request engine host config).sink.output.bytes ∧
      ((∃ e, (report request engine host config).result = .error e ∧
          (lint request engine host).exitCode = ExitCode.failure) ∨
        ∃ outcome, (report request engine host config).result = .ok outcome ∧
          (lint request engine host).exitCode = ExitCode.success) := by
  rw [lint, loaded, report]
  cases result : ((⟨config, request.compiler⟩ : Linter).run engine host host.invoker
      IssueWriter.emit {}).result with
  | error e => simp [result]
  | ok outcome => simp [result]

/-- Exit code and standard output of a session are those of its ending. -/
theorem Ending.lint (ending : Ending request engine host code written) :
    (Session.lint request engine host).exitCode = code ∧
      (Session.lint request engine host).stdout = Issue.stream written := by
  rcases ending.outcome with ⟨e, refused, rfl, rfl⟩ | ⟨config, loaded, sink, result⟩
  · exact lint_of_error refused
  · obtain ⟨stdout, exit⟩ := lint_of_ok loaded
    rw [stdout, sink]
    refine ⟨?_, rfl⟩
    rcases result with ⟨e, result, rfl⟩ | ⟨outcome, result, rfl, -⟩
    · rcases exit with ⟨-, -, exit⟩ | ⟨outcome, other, -⟩
      · exact exit
      · rw [result] at other
        cases other
    · rcases exit with ⟨e, other, -⟩ | ⟨-, -, exit⟩
      · rw [result] at other
        cases other
      · exact exit

theorem lint_success_iff : (lint request engine host).exitCode = ExitCode.success ↔
    ∃ config outcome, Config.ofFile host request.config request.workspace = .ok config ∧
      (report request engine host config).result = .ok outcome := by
  cases loaded : Config.ofFile host request.config request.workspace with
  | error e =>
    rw [(lint_of_error loaded).1]
    exact ⟨nofun, nofun⟩
  | ok config =>
    obtain ⟨-, ⟨e, result, exit⟩ | ⟨outcome, result, exit⟩⟩ := lint_of_ok loaded
    · rw [exit]
      refine ⟨nofun, ?_⟩
      rintro ⟨_, outcome, ⟨⟩, other⟩
      rw [result] at other
      cases other
    · rw [exit]
      exact ⟨fun _ => ⟨config, outcome, rfl, result⟩, fun _ => rfl⟩

/-- A session with valid arguments ends in one of the ways, with the exit code of that
way, and it exits with success exactly if its configuration loads and its run meets no
error. Standard output is the stream of the issues of the way that it ended. It falls
into their documents, each of which decodes to the object of its issue, and this to the
issue; there are as many as the writer counts and as a run that completed reports. -/
theorem run_ends {arguments : List Text} (valid : CommandLine.read arguments = .ok (.lint request))
    (engine : PatternEngine) (host : Host) :
    (∃ code written, Ending request engine host code written) ∧
    (∀ code written, Ending request engine host code written →
      (run arguments engine host).exitCode = code ∧
      (run arguments engine host).stdout = Issue.stream written ∧
      Issue.chunks (run arguments engine host).stdout = written.map Issue.document ++ [[]] ∧
      (∀ i ∈ written, Issue.json? i.document = some i.toJson ∧ Issue.ofJson? i.toJson = some i) ∧
      ∀ config, Config.ofFile host request.config request.workspace = .ok config →
        (report request engine host config).sink.written = written.length ∧
        ∀ summary, (report request engine host config).result = .ok (.completed summary) →
          summary.emitted = written.length) ∧
    ((run arguments engine host).exitCode = ExitCode.success ↔
      ∃ config outcome, Config.ofFile host request.config request.workspace = .ok config ∧
        (report request engine host config).result = .ok outcome) := by
  have exitCode : (run arguments engine host).exitCode = (lint request engine host).exitCode := by
    rw [run, valid]
  have stdout : (run arguments engine host).stdout = (lint request engine host).stdout := by
    rw [run, valid]
  rw [exitCode, stdout]
  refine ⟨exists_ending (CommandLine.workspace_ne_nil valid), ?_, lint_success_iff⟩
  intro code written ending
  obtain ⟨exit, stream⟩ := ending.lint
  rw [stream]
  refine ⟨exit, rfl, Issue.chunks_stream ending.fits,
    fun i held => ⟨Issue.json?_document (ending.fits i held), Issue.ofJson?_toJson i⟩, ?_⟩
  intro config loaded
  rcases ending.outcome with ⟨e, refused, -⟩ | ⟨config', loaded', sink, result⟩
  · rw [refused] at loaded
    cases loaded
  rw [loaded] at loaded'
  cases loaded'
  refine ⟨congrArg IssueWriter.written sink, fun summary completed => ?_⟩
  rcases result with ⟨e, other, -⟩ | ⟨outcome, other, -, emitted⟩
  · rw [completed] at other
    cases other
  · rw [completed] at other
    cases other
    exact emitted summary rfl

end

end Session

/-! ## A session of a small project -/

namespace FileTree

/-- A schema file, a configuration that lists the root, and a program, in the root. -/
def project (output : FinishedProcess) : Entries :=
  [("a.proto", .file [] none),
   (['c'], .file (Text.utf8 (Json.object [(Config.includeKey, .array [.string ['/']])]).compact)
     none),
   ("protoc", .file [] (some output))]

theorem rootFiles_project (output : FinishedProcess) :
    rootFiles (project output) = [⟨"/a.proto"⟩] := by
  have found : (project output).map (fun entry => (entry.1, batch entry.1 entry.2)) =
      ([("a.proto", [["a.proto"]]), (['c'], []), ("protoc", [])] : List (Text × List (List Text))) :=
    rfl
  rw [rootFiles, schemaFiles_dir, found, List.mergeSort_of_pairwise (by decide)]
  rfl

end FileTree

/-- The host of the project. Programs are looked up in a directory that does not exist
and then in the root. -/
def Host.project (output : FinishedProcess) : Host where
  tree := .dir (FileTree.project output)
  here := Path.root
  searchPath := [⟨['/', 'x']⟩, Path.root]

/-- What the configuration of the project says. -/
def Config.project : Config :=
  ⟨{ listedPaths := [['/']] }, [(includeKey, .array [.string ['/']])], Path.root,
    some ⟨['/', 'c']⟩⟩

/-- What a search in the project finds. -/
def Discovery.project : Discovery := ⟨Path.root, [Path.root], [⟨"/a.proto"⟩]⟩

theorem Config.ofFile_project (output : FinishedProcess) :
    ofFile (.project output) ⟨['/', 'c']⟩ Path.root = .ok .project := by
  have read : Json.read? (Json.object [(includeKey, .array [.string ['/']])]).compact =
      some (.object [(includeKey, .array [.string ['/']])]) := by
    have distinct : ([includeKey] : List Text).Nodup := by decide
    have items : (Json.array [.string ['/']]).Readable (125 + 1) :=
      .array (List.forall_mem_singleton.mpr (.string _))
    have object : (Json.object [(includeKey, .array [.string ['/']])]).Readable (126 + 1) :=
      .object distinct (List.forall_mem_singleton.mpr items)
    exact object.read?_compact
  have found : (Host.project output).find ⟨['/', 'c']⟩ =
      .ok (.file (Text.utf8 (Json.object [(includeKey, .array [.string ['/']])]).compact) none) :=
    Host.find_root rfl (by decide) (by decide) (by decide) rfl nofun
  rw [ofFile, Host.readText, found]
  simp only [Text.Utf8.decode?_utf8, ofText, read]
  rfl

/-- A program that starts is answered with its output. -/
theorem Host.invoker_of_launch {host : Host} {command : Command} {finished : FinishedProcess}
    (launched : host.launch command.program command.arguments = .ok finished) :
    (host.invoker command).1 = .ok (.ofProcess finished) := by
  rw [Host.invoker, launched]

namespace Session

/-- The default compiler is the program of the project. -/
theorem answers_project (output : FinishedProcess) :
    Answers ⟨⟨['/', 'c']⟩, Path.root, Command.defaultCompiler, false⟩ Pattern.dialect
      (.project output) .project .project (.ofProcess output) := by
  have found : ((Search.resolve Pattern.dialect .project (.project output)).run {}).1 =
      .ok .project := by
    rw [Search.resolve_root (by rfl : (Host.project output).tree = _) rfl rfl rfl,
      FileTree.rootFiles_project]
    rfl
  have absent : (Host.project output).execute ⟨"/x/protoc"⟩ = .error .notFound := by cbv
  have present : (Host.project output).execute ⟨"/protoc"⟩ = .ok output := by cbv
  have started : (Host.project output).lookUp Command.defaultCompiler .notFound
      (Host.project output).searchPath = .ok output :=
    Host.lookUp_of_passesOver (List.forall_mem_singleton.mpr ⟨_, absent, rfl⟩) present _ []
  have launched : (Host.project output).launch Command.defaultCompiler
      (Command.build Command.defaultCompiler .project).arguments = .ok output := by
    rw [Host.launch, if_neg (by decide), if_neg (by decide), if_neg (by decide),
      if_neg (by decide), started]
  exact ⟨⟨Config.ofFile_project output, found⟩, by decide, Host.invoker_of_launch launched⟩

/-- A session whose compiler is the default one, found on the search path, and which
reports an issue and then says something that cannot be read fails, and leaves the
document of the issue. -/
theorem run_ends_unreadable :
    let output : FinishedProcess :=
      ⟨.ofCode 1, Text.utf8 "a.proto:3:7: Missing field number.\n?\n", []⟩
    let arguments : List Text := [['/', 'c'], ['/']]
    ∃ i : Issue, i.path = "a.proto" ∧
      (run arguments Pattern.dialect (.project output)).exitCode = ExitCode.failure ∧
      (run arguments Pattern.dialect (.project output)).stdout = i.document ++ [0, 10] := by
  intro output arguments
  have valid : CommandLine.read arguments =
      .ok (.lint ⟨⟨['/', 'c']⟩, Path.root, Command.defaultCompiler, false⟩) := by rfl
  have first : classify "a.proto:3:7: Missing field number." =
      .ok (.make (.compile .missingFieldNumber) .compiler "a.proto:3:7: Missing field number."
        "a.proto" 3 7 none) := by
    rfl
  have last : ∃ e, classify "?" = .error e := ⟨_, by rfl⟩
  have known : Discovery.project.find? "a.proto" = some ⟨"/a.proto"⟩ := by decide
  have lines : (ToolOutput.ofProcess output).lines =
      (["a.proto:3:7: Missing field number.", "?"] : List Text) := by
    decide
  have diagnostics : (ToolOutput.ofProcess output).diagnostics =
      (["a.proto:3:7: Missing field number."] : List Text) ++ String.toList "?" :: [] := by
    unfold ToolOutput.diagnostics
    rw [lines]
    decide
  have spoken : (ToolOutput.ofProcess output).isSilent = false := by
    rw [ToolOutput.isSilent, lines]
    decide
  have resolved := resolved_cons_iff.mpr ⟨⟨first, Or.inr ⟨_, known⟩⟩, .nil⟩
  have ending := Ending.stopped (answers_project output) rfl spoken diagnostics resolved
    (Or.inl last)
  obtain ⟨-, ends, -⟩ := run_ends valid Pattern.dialect (.project output)
  obtain ⟨exit, stdout, -⟩ := ends _ _ ending
  obtain ⟨i, made, path⟩ : ∃ i, Record.issue (.make (.compile .missingFieldNumber) .compiler
      "a.proto:3:7: Missing field number." "a.proto" 3 7 none) .project = .ok (some i) ∧
        i.path = "a.proto" := by
    rw [Record.issue, if_neg (by decide), Discovery.location]
    simp only [Record.make, known]
    exact ⟨_, rfl, by decide⟩
  rw [issues_cons_of_issue made] at stdout
  exact ⟨i, path, exit, stdout.trans (List.append_nil _)⟩

end Session

end SchemaLint
