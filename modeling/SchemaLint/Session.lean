import SchemaLint.CommandLine
import SchemaLint.Config.Reader
import SchemaLint.Issue.Stream
import SchemaLint.Run.Basic

/-!
The whole program as a function: from the arguments of a command line, the engine
for patterns and the host that it works on to the exit code, the octets on
standard output and the log. Issues go to standard output, everything else to the
log; with a wrong command line there is neither.
-/

namespace SchemaLint

namespace ExitCode

/-- The code of a run that met no error. -/
def success : Nat := 0

/-- The code of a run that an error ended. -/
def failure : Nat := 1

/-- The code of a command line that cannot be read. -/
def usage : Nat := 2

end ExitCode

/-- What a session leaves behind. -/
structure Session where
  exitCode : Nat
  stdout : List UInt8 := []
  log : List Event := []
  /-- The command that was run, if one was. -/
  command : Option Command := none
  /-- Why the session failed, in words. -/
  complaint : Option Text := none
deriving Repr

namespace Session

/-- The name of the program and its version. -/
def versionText : Text := "protolint 1.0.0\n"

/-- How to call the program. -/
def helpText : Text :=
  "Usage: protolint [-v|--verbose] [--protoc PROGRAM] CONFIG WORKSPACE\n"

/-- The events about a configuration that was read. -/
def configEvents (c : Config) : List Event :=
  .configRead c.document :: c.source.toList.map .configLoaded ++ [.configKeys c.items]

/-- The events after a run that met no error, where `written` issues went out. -/
def closingEvents (written : Nat) : Outcome → List Event
  | .noFiles => []
  | .completed summary =>
    [.totals summary.files summary.classified written summary.suppressed, .allDone]

/-- Reads the configuration, lints, and writes the issues to standard output. -/
def lint (request : LintRequest) (engine : PatternEngine) (host : Host) : Session :=
  match Config.ofFile host request.config request.workspace with
  | .error e =>
    { exitCode := ExitCode.failure, complaint := some (LintError.config e).message }
  | .ok config =>
    let linter : Linter := ⟨config, request.compiler⟩
    let report := linter.run engine host host.invoker IssueWriter.emit {}
    let opened := configEvents config ++ report.log
    let stdout := report.sink.output.bytes
    match report.result with
    | .error e =>
      { exitCode := ExitCode.failure, stdout, log := opened, command := report.command,
        complaint := some e.message }
    | .ok outcome =>
      { exitCode := ExitCode.success, stdout, command := report.command,
        log := opened ++ closingEvents report.sink.written outcome }

/-- The least level that the log of a request shows. -/
def leastLevel (request : LintRequest) : Level := if request.isVerbose then .debug else .info

/-- A session from the arguments of the command line on. Its log holds what the
request wants to see. -/
def run (arguments : List Text) (engine : PatternEngine) (host : Host) : Session :=
  match CommandLine.read arguments with
  | .error e => { exitCode := ExitCode.usage, complaint := some e.message }
  | .ok .version => { exitCode := ExitCode.success, stdout := Text.utf8 versionText }
  | .ok .help => { exitCode := ExitCode.success, stdout := Text.utf8 helpText }
  | .ok (.lint request) =>
    let session := lint request engine host
    { session with log := filterLog (leastLevel request) session.log }

end Session

end SchemaLint
