import SchemaLint.Path
import SchemaLint.Process

/-!
Trees of files: regular files, symbolic links and directories with named
entries. A file may be a program, and then says how a run of it ends.

There is no other kind of file in a tree, every file and directory in it can be
read, and names are texts: names that are not well-formed UTF-8 are left out, and so
a name is shown as it is.

A tree is a value. `insert` builds trees; `WellFormed` says what every tree of a
real file system satisfies: the names in a directory are distinct, and none is
empty, a dot, a double dot or holds a separator.
-/

namespace SchemaLint

/-- A tree of files. -/
inductive FileTree where
  | file (content : List UInt8) (program : Option FinishedProcess)
  | link (target : Path)
  | dir (entries : List (Text × FileTree))
deriving Repr, Inhabited

namespace FileTree

/-- The entries of a directory. -/
abbrev Entries := List (Text × FileTree)

/-- The entry with a given name. -/
def Entries.get? (name : Text) : Entries → Option FileTree
  | [] => none
  | (n, t) :: rest => if n = name then some t else Entries.get? name rest

/-- The entries with one of them set, in its place or at the end. -/
def Entries.set (name : Text) (t : FileTree) : Entries → Entries
  | [] => [(name, t)]
  | (n, u) :: rest => if n = name then (name, t) :: rest else (n, u) :: Entries.set name t rest

/-- A directory without entries. -/
def empty : FileTree := .dir []

/-- The tree reached by a list of names, without following links. -/
def at? : List Text → FileTree → Option FileTree
  | [], t => some t
  | n :: ns, .dir entries => (Entries.get? n entries).bind (at? ns)
  | _ :: _, _ => none

/-- The tree with `leaf` at the end of a list of names. Directories on the way
are made; an existing directory is kept when the leaf is one; below a file or a
link nothing can be put. -/
def insert (leaf : FileTree) : List Text → FileTree → FileTree
  | [], t =>
    match leaf, t with
    | .dir [], .dir entries => .dir entries
    | _, _ => leaf
  | n :: ns, .dir entries =>
    .dir (Entries.set n (insert leaf ns ((Entries.get? n entries).getD empty)) entries)
  | _ :: _, t => t

/-- Whether a text can name an entry of a directory. -/
def IsName (n : Text) : Prop := n ≠ [] ∧ n ≠ ['.'] ∧ n ≠ ['.', '.'] ∧ '/' ∉ n

/-- The condition that every tree of a real file system satisfies. -/
inductive WellFormed : FileTree → Prop where
  | file {content : List UInt8} {program : Option FinishedProcess} :
      WellFormed (.file content program)
  | link {target : Path} : WellFormed (.link target)
  | dir {entries : Entries} (distinct : (entries.map (·.1)).Nodup)
      (named : ∀ entry ∈ entries, IsName entry.1)
      (below : ∀ entry ∈ entries, WellFormed entry.2) : WellFormed (.dir entries)

end FileTree

end SchemaLint
