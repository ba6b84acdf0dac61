import SchemaLint.Config.Basic
import SchemaLint.Discovery.Exclusion
import SchemaLint.FileTree.Lookup
import SchemaLint.FileTree.SchemaFiles

/-!
Finding the schema files of a configuration. The paths to scan are taken in
order; those that are excluded or name no directory are passed over, and each of
the others contributes the schema files below it. Paths that are not absolute
are taken from the workspace, and a workspace that is not absolute from the
current directory.
-/

namespace SchemaLint

namespace Config

/-- The workspace as an absolute path. An absolute one is left as it is
spelled. -/
def workspaceRoot (c : Config) (here : Path) : Except SystemError Path :=
  if c.workspace.isAbsolute then .ok c.workspace
  else if c.workspace.text = [] then .error .emptyPath
  else .ok (Path.absoluteFrom here c.workspace)

/-- A configured path as an absolute path. -/
def makeAbsolute (c : Config) (here : Path) (p : Path) : Except SystemError Path :=
  if p.isAbsolute then .ok p else (c.workspaceRoot here).map fun root => root.join p

end Config

namespace Search

/-- The schema files below a directory, in the order of the walk. -/
def scan (host : Host) (dir : Path) : List Path :=
  match host.directory? dir with
  | some entries =>
    (FileTree.dir entries).schemaFiles.map fun names => names.foldl Path.append dir
  | none => []

/-- Notes a list of events. -/
def noteAll {engine : PatternEngine} (events : List Event) : StateM (Search engine) Unit :=
  modify fun s => { s with log := s.log ++ events }

/-- The events about the files found in a directory. -/
def foundEvents (files : List Path) : List Event :=
  if files.isEmpty then [.foundNone] else .foundSome files.length :: files.map .foundFile

/-- What is found under the paths to scan, with the directory of each. -/
def scanPaths (engine : PatternEngine) (c : Config) (host : Host) :
    List Text → StateM (Search engine) (Except SystemError (List (Path × List Path)))
  | [] => return .ok []
  | path :: rest => do
    if ← isExcluded engine c.excludePaths path then
      note (.skippedExcluded path)
      scanPaths engine c host rest
    else
      match c.makeAbsolute host.here ⟨path⟩ with
      | .error e => return .error e
      | .ok dir =>
        if (host.directory? dir).isNone then
          note (.skippedNonDirectory dir)
          scanPaths engine c host rest
        else
          let files := scan host dir
          noteAll (.scanning dir :: foundEvents files)
          return (← scanPaths engine c host rest).map fun found => (dir, files) :: found

/-- Finds the schema files of a configuration. -/
def resolve (engine : PatternEngine) (c : Config) (host : Host) :
    StateM (Search engine) (Except SystemError Discovery) := do
  match c.workspaceRoot host.here with
  | .error e => return .error e
  | .ok root =>
    match ← scanPaths engine c host c.includePaths with
    | .error e => return .error e
    | .ok found =>
      let files := found.flatMap (·.2)
      note (.discovered files.length)
      return .ok ⟨root, found.map (·.1), files⟩

end Search

end SchemaLint
