import SchemaLint.FileTree.Basic
import SchemaLint.SystemError
import SchemaLint.Text.Utf8

/-!
Finding the file that a path names, as the system does: part by part from the
root or the current directory, following symbolic links on the way and at the
end, with a limit on their number. What is found is given by the names on the
way to it, which contain no link.

A `Host` is a tree of files with a current directory and the directories in which
programs are looked up. It answers whether a path names a directory and what text a
file holds.
-/

namespace SchemaLint

namespace FileTree

/-- The greatest number of links followed for one path. -/
def maxLinks : Nat := 40

/-- The greatest number of octets in a name. -/
def maxName : Nat := 255

/-- The number of octets that a path must stay below. -/
def maxPath : Nat := 4096

/-- Goes on from the directory at `place` through the parts of a path. An empty
part or a dot stays in place, but only in a directory. -/
def follow (tree : FileTree) (links : Nat) (place todo : List Text) :
    Except SystemError (List Text) :=
  match todo with
  | [] => .ok place
  | part :: rest =>
    match tree.at? place with
    | some (.dir entries) =>
      if part = [] || part = ['.'] then follow tree links place rest
      else if part = ['.', '.'] then follow tree links place.dropLast rest
      else if (Text.utf8 part).length > maxName then .error .nameTooLong
      else
        match Entries.get? part entries with
        | none => .error .notFound
        | some (.link target) =>
          match links with
          | 0 => .error .tooManyLinks
          | links + 1 =>
            follow tree links (if target.isAbsolute then [] else place)
              (Path.parts target.text ++ rest)
        | some _ => follow tree links (place ++ [part]) rest
    | _ => .error .notDirectory
termination_by (links, todo.length)

end FileTree

/-- A tree of files, a current directory and a search path for programs. -/
structure Host where
  tree : FileTree
  here : Path
  searchPath : List Path := []
deriving Repr

namespace Host

/-- The names on the way to what a path names. -/
def locate (host : Host) (p : Path) : Except SystemError (List Text) :=
  if p.text.elem '\x00' then .error .nullInPath
  else if p.text = [] then .error .notFound
  else if (Text.utf8 p.text).length ≥ FileTree.maxPath then .error .nameTooLong
  else
    let start := if p.isAbsolute then [] else Path.parts host.here.text
    host.tree.follow FileTree.maxLinks [] (start ++ Path.parts p.text)

/-- What a path names. -/
def find (host : Host) (p : Path) : Except SystemError FileTree :=
  match host.locate p with
  | .error e => .error e
  | .ok place =>
    match host.tree.at? place with
    | some t => .ok t
    | none => .error .notFound

/-- The entries of the directory that a path names, if it names one. -/
def directory? (host : Host) (p : Path) : Option FileTree.Entries :=
  match host.find p with
  | .ok (.dir entries) => some entries
  | _ => none

/-- The text of the file that a path names. -/
def readText (host : Host) (p : Path) : Except SystemError Text :=
  match host.find p with
  | .error e => .error e
  | .ok (.file content _) =>
    match Text.Utf8.decode? content with
    | some t => .ok t
    | none => .error .notText
  | .ok _ => .error .isDirectory

end Host

end SchemaLint
