import SchemaLint.Compiler.Command
import SchemaLint.Json.Printer
import SchemaLint.Run.Phase

/-!
Events: what a run notes in its log as it goes. Each has a level and a message;
the events themselves are data, so that what a log says can be stated without
looking at words. Notices are the events that come from the parts a run is given
from outside, the invoker and the sink; no other event can come from there.
-/

namespace SchemaLint

/-- How much an event matters, the least first. -/
inductive Level where
  | debug
  | info
  | warn
  | error
deriving Repr, DecidableEq

namespace Level

/-- The place of a level in their order. -/
def rank : Level → Nat
  | .debug => 0
  | .info => 1
  | .warn => 2
  | .error => 3

/-- The name of a level. -/
def name : Level → Text
  | .debug => "DEBUG"
  | .info => "INFO"
  | .warn => "WARN"
  | .error => "ERROR"

end Level

/-- Something that an invoker or a sink notes. -/
inductive Notice where
  | running (command : Command)
  | exited (program status : Text) (lines : Nat)
  /-- An issue was given to the issue stream. -/
  | issued (record : Record)
deriving Repr, DecidableEq

/-- Something that a run notes. -/
inductive Event where
  /-- A notice from outside the run. -/
  | notice (n : Notice)
  /-- A document was read as a configuration. -/
  | configRead (document : Json.Members)
  /-- A configuration was read from a file. -/
  | configLoaded (source : Path)
  /-- The keys of a configuration. -/
  | configKeys (keys : List Text)
  /-- An entry that excludes paths is not a pattern, for a reason. -/
  | notAPattern (entry reason : Text)
  /-- A pattern excludes a path. -/
  | excludedBy (path entry : Text)
  | skippedExcluded (path : Text)
  | skippedNonDirectory (dir : Path)
  | scanning (dir : Path)
  /-- The schema files found in one directory. -/
  | foundNone
  | foundSome (count : Nat)
  | foundFile (file : Path)
  /-- The number of all schema files. -/
  | discovered (count : Nat)
  /-- The run is in its first phase. -/
  | started (phase : Phase)
  | advanced (before after : Phase)
  | nothingToLint
  | ignoredLines (count : Nat)
  | noIssues
  | silentCrash
  | classified (record : Record)
  /-- A line could not be read, after a number of records. -/
  | stopped (count : Nat) (line : Text)
  | reporting (record : Record)
  | suppressed (record : Record)
  | countMismatch (reported parsed : Nat)
  | compilerWarnings (count : Nat)
  | reportedIssues (count : Nat)
  /-- The totals of a run that completed. -/
  | totals (files parsed written kept : Nat)
  | allDone
deriving Repr

namespace Notice

/-- The level of a notice. Minor issues are warnings, the others errors. -/
def level : Notice → Level
  | .issued record => if record.kind.profile.severity = .minor then .warn else .error
  | _ => .debug

/-- The message of a notice. -/
def message : Notice → Text
  | .running command => "Running: " ++ command.display
  | .exited program status lines =>
    "`" ++ program ++ "` exited with " ++ status ++ " (" ++ Text.numeral lines ++
      " lines captured)"
  | .issued record => "[" ++ record.kind.name ++ "]: " ++ record.message

end Notice

namespace Event

/-- The level of an event. -/
def level : Event → Level
  | .notice n => n.level
  | .notAPattern _ _ => .warn
  | .countMismatch _ _ => .warn
  | .silentCrash => .error
  | .discovered _ => .info
  | .nothingToLint => .info
  | .noIssues => .info
  | .reportedIssues _ => .info
  | .allDone => .info
  | _ => .debug

/-- The message of an event. -/
def message : Event → Text
  | .notice n => n.message
  | .configRead document => "Parsed config: " ++ (Json.object document).pretty
  | .configLoaded source => "Loaded config from " ++ source.text
  | .configKeys keys => "Config keys: " ++ Text.join ", " keys
  | .notAPattern entry reason =>
    "Unable to compile exclude_path as regex: '" ++ entry ++ "': " ++ reason
  | .excludedBy path entry =>
    "Path '" ++ path ++ "' excluded by exclusion path '" ++ entry ++ "'."
  | .skippedExcluded path => "Skipping excluded path \"" ++ path ++ "\"."
  | .skippedNonDirectory dir => "Skipping non-directory path \"" ++ dir.text ++ "\"."
  | .scanning dir => "Scanning include_path \"" ++ dir.text ++ "\"..."
  | .foundNone => "Found no protos."
  | .foundSome count => "Found " ++ Text.numeral count ++ " protos:"
  | .foundFile file => "- " ++ file.text
  | .discovered count => "Discovered " ++ Text.numeral count ++ " protos to lint"
  | .started phase => "Run phase: " ++ phase.name
  | .advanced before after => "Run phase: " ++ before.name ++ " -> " ++ after.name
  | .nothingToLint => "No files to analyze. Exiting."
  | .ignoredLines count =>
    "Ignoring " ++ Text.numeral count ++ " lines printed by a clean exit"
  | .noIssues => "No issues found."
  | .silentCrash => "Protoc crashed but we got no output."
  | .classified record => "Classified " ++ record.file ++ " as " ++ record.kind.name
  | .stopped count line =>
    "Classification stopped after " ++ Text.numeral count ++ " issues at: " ++ line
  | .reporting record =>
    "Reporting issue: " ++ record.display ++ " (remediation: " ++
      Text.numeral record.kind.profile.remediation ++ ")"
  | .suppressed record => "Suppressed " ++ record.kind.name ++ " for " ++ record.file
  | .countMismatch reported parsed =>
    "Number of reported issues from plugin (" ++ Text.numeral reported ++
      ") does not match number of issues parsed (" ++ Text.numeral parsed ++ ")."
  | .compilerWarnings count =>
    Text.numeral count ++ " internal compiler warnings reported alongside plugin output"
  | .reportedIssues count => "Reporting " ++ Text.numeral count ++ " issues."
  | .totals files parsed written kept =>
    "Linted " ++ Text.numeral files ++ " files: " ++ Text.numeral parsed ++ " classified, " ++
      Text.numeral written ++ " written, " ++ Text.numeral kept ++ " suppressed"
  | .allDone => "All done."

end Event

/-- The events of a log that matter at least as much as a level. -/
def filterLog (least : Level) (log : List Event) : List Event :=
  log.filter fun e => least.rank ≤ e.level.rank

end SchemaLint
