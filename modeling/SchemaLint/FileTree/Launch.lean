import SchemaLint.FileTree.Lookup

/-!
Starting programs, as the system does. A program name with a separator is the path
of a file. Any other is looked up in the directories of the search path, one after
the other: those that do not have it, or have it as something that may not be run,
are passed over. When no directory is left, a name that was met counts as one that
may not be run, whatever came after.

How a program ends depends on its file alone. That the system may refuse to start a
program for other reasons, such as the size of its arguments, is left out.
-/

namespace SchemaLint

/-- Whether a program is looked up further after a failure. -/
def SystemError.isPassedOver : SystemError → Bool
  | .notFound | .notDirectory | .permissionDenied => true
  | _ => false

namespace Host

/-- How a run of the program in a file ends. A file that is not a program may not
be run. -/
def execute (host : Host) (file : Path) : Except SystemError FinishedProcess :=
  match host.find file with
  | .error e => .error e
  | .ok (.file _ (some finished)) => .ok finished
  | .ok _ => .error .permissionDenied

/-- Looks a program up in directories, where `failure` is what the ones before have
come to. An empty directory name stands for the current directory. -/
def lookUp (host : Host) (program : Text) (failure : SystemError) :
    List Path → Except SystemError FinishedProcess
  | [] => .error failure
  | dir :: rest =>
    match host.execute (dir.append program) with
    | .ok finished => .ok finished
    | .error e =>
      if e.isPassedOver then
        lookUp host program (if failure = .permissionDenied then failure else e) rest
      else .error e

/-- How a run of a program with the given arguments ends. -/
def launch (host : Host) (program : Text) (arguments : List Text) :
    Except SystemError FinishedProcess :=
  if (program :: arguments).any (·.elem '\x00') then .error .nullInArgument
  else if program.elem '/' then host.execute ⟨program⟩
  else if program = [] then .error .notFound
  else if (Text.utf8 program).length > FileTree.maxName then .error .nameTooLong
  else host.lookUp program .notFound host.searchPath

end Host

end SchemaLint
