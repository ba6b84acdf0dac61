import SchemaLint.Config.Error
import SchemaLint.Line.Basic

/-!
The errors that can end a run, and their messages.
-/

namespace SchemaLint

/-- Why a run did not complete. -/
inductive LintError where
  | config (e : ConfigError)
  /-- The compiler could not be started. -/
  | launch (program : Text) (reason : SystemError)
  /-- The compiler failed without a word. -/
  | crashed (program status : Text)
  /-- A line could not be read. -/
  | line (e : LineError)
  /-- A record names a file that was not discovered. -/
  | unresolved (file : Text)
  | system (reason : SystemError)
deriving Repr

/-- The message of an error. -/
def LintError.message : LintError → Text
  | .config e => "Configuration error: " ++ e.text
  | .launch program reason => "Failed to run `" ++ program ++ "`: " ++ reason.message
  | .crashed program status =>
    "`" ++ program ++ "` crashed but produced no output (status: " ++ status ++ ")"
  | .line e => e.message
  | .unresolved file => "Unable to resolve workspace path for protobuf file: " ++ file
  | .system reason => "I/O error: " ++ reason.message

end SchemaLint
