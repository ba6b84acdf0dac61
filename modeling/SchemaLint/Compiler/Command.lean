import SchemaLint.Discovery.Basic

/-!
The command that runs the compiler on what was discovered: a flag for each
include directory, each file once, and the flag that sends the output through
the lint plugin. Files are the same when their components are.
-/

namespace SchemaLint

/-- A command to run. -/
structure Command where
  program : Text
  arguments : List Text
deriving Repr, DecidableEq

namespace Command

/-- The compiler that is run when none is named. -/
def defaultCompiler : Text := "protoc"

/-- The flag in front of an include directory. -/
def includeFlag : Text := "--proto_path="

/-- The flag that sends the output through the lint plugin. -/
def lintFlag : Text := "--lint_out=/.linter"

/-- The paths whose components none before has, where `seen` holds components
already met. -/
def distinctFrom (seen : List (List Path.Component)) : List Path → List Path
  | [] => []
  | p :: rest =>
    if seen.elem p.components then distinctFrom seen rest
    else p :: distinctFrom (p.components :: seen) rest

/-- The paths, each once, in the spelling in which it comes first. -/
def distinct (paths : List Path) : List Path := distinctFrom [] paths

/-- The command that checks what was discovered. -/
def build (program : Text) (d : Discovery) : Command where
  program := program
  arguments :=
    d.includeDirs.map (fun dir => includeFlag ++ dir.text) ++
      (distinct d.files).map (·.text) ++ [lintFlag]

/-- The command on one line. -/
def display (c : Command) : Text :=
  c.program ++ c.arguments.flatMap fun argument => ' ' :: argument

end Command

end SchemaLint
