import SchemaLint.Json.Basic
import SchemaLint.Path
import SchemaLint.SystemError

/-!
The configuration of a run. The document that it is read from is kept whole, so
that keys without a meaning here can still be asked for; the settings are what
the document says under the keys that have one.
-/

namespace SchemaLint

/-- What the interpreted keys of a configuration say. -/
structure Settings where
  /-- The paths under `include_paths`. -/
  listedPaths : List Text := []
  /-- The entries under `exclude_paths`. -/
  excludePaths : List Text := []
  /-- The paths under `protopaths` in the engine's own section, if it has some. -/
  protopaths : Option (List Text) := none
deriving Repr, DecidableEq

/-- The configuration of a run. -/
structure Config where
  settings : Settings
  /-- The whole document. -/
  document : Json.Members
  /-- The workspace as it was given. -/
  workspace : Path
  /-- The file that the document was read from, if it was one. -/
  source : Option Path
deriving Repr

namespace Config

/-- The key of the paths to scan. -/
def includeKey : Text := "include_paths"

/-- The key of the entries that exclude paths. -/
def excludeKey : Text := "exclude_paths"

/-- The key of the engine's own section. -/
def engineKey : Text := "config"

/-- The key of the paths in the engine's own section. -/
def protopathsKey : Text := "protopaths"

/-- The paths to scan: those of the engine's section if it has a list, even an
empty one, and the listed ones otherwise. -/
def includePaths (c : Config) : List Text :=
  c.settings.protopaths.getD c.settings.listedPaths

/-- The entries that exclude paths. -/
def excludePaths (c : Config) : List Text := c.settings.excludePaths

/-- The value of a key of the document. -/
def get? (c : Config) (key : Text) : Option Json := Json.Members.get? key c.document

/-- The keys of the document other than that of the paths to scan. -/
def items (c : Config) : List Text := (Json.Members.keys c.document).filter (· ≠ includeKey)

end Config

/-- What a value of a document should have been. -/
inductive Expectation where
  | sequence
  | string
  | engineSection
deriving Repr, DecidableEq

/-- The words for an expectation. -/
def Expectation.text : Expectation → Text
  | .sequence => "a sequence"
  | .string => "a string"
  | .engineSection => "struct EngineConfig"

/-- How a document that is JSON fails to be a configuration. -/
inductive Mismatch where
  | wrongType (found : Json) (expected : Expectation)
  /-- The engine's section is an array with too many items. -/
  | tooLong (length : Nat)
deriving Repr

/-- Why there is no configuration. -/
inductive ConfigError where
  | unreadable (file : Path) (reason : SystemError)
  | notJson
  | notObject
  | mismatch (m : Mismatch)
  /-- A refusal in the words of whoever refused. -/
  | other (reason : Text)
deriving Repr

end SchemaLint
