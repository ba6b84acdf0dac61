import SchemaLint.Discovery.Basic

/-!
Issues: the form in which a record leaves the program, with its place in the
workspace in place of the file as the tool named it.
-/

namespace SchemaLint

/-- A line and a column. -/
structure Position where
  line : Nat
  column : Nat
deriving Repr, DecidableEq

/-- An issue to report. -/
structure Issue where
  checkName : Text
  description : Text
  categories : List Category
  severity : Severity
  fingerprint : Text
  /-- The file, from the workspace root on. -/
  path : Text
  first : Position
  last : Position
deriving Repr, DecidableEq

/-- The issue that a record reports, or nothing for a record that is kept
back. A record that is not kept back has to name a discovered file. -/
def Record.issue (r : Record) (d : Discovery) : Except LintError (Option Issue) :=
  if r.isSuppressed then .ok none
  else
    match d.location r with
    | .error e => .error e
    | .ok path =>
      .ok (some {
        checkName := r.kind.profile.checkName
        description := r.message
        categories := r.kind.profile.categories
        severity := r.kind.profile.severity
        fingerprint := r.fingerprint
        path := path
        first := ⟨r.line, r.column⟩
        last := ⟨r.line, r.column⟩ })

end SchemaLint
