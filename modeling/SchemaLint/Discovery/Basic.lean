import SchemaLint.Path
import SchemaLint.LintError

/-!
What the search for schema files found. A tool names a file relative to one of
its search paths, so a reported file is looked up by the last components of the
discovered ones, the first that fits; and a place in the workspace is given by
the names below the workspace root.
-/

namespace SchemaLint

/-- The directories and schema files of a run, all absolute, in the order in
which they were found. -/
structure Discovery where
  root : Path
  includeDirs : List Path
  files : List Path
deriving Repr, DecidableEq

namespace Discovery

/-- The first discovered file that ends with what a tool reported. -/
def find? (d : Discovery) (reported : Text) : Option Path :=
  d.files.find? fun file => file.endsWith ⟨reported⟩

/-- The names from the workspace root to a path, or all its names when it lies
outside, with separators between them. -/
def locationOf (d : Discovery) (p : Path) : Text :=
  Text.join "/" (Path.names ((Path.below? d.root p).getD p.components))

/-- The place in the workspace that a record points at. -/
def location (d : Discovery) (r : Record) : Except LintError Text :=
  match d.find? r.file with
  | some p => .ok (d.locationOf p)
  | none => .error (.unresolved r.file)

end Discovery

end SchemaLint
