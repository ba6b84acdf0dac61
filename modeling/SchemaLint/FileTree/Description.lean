import SchemaLint.FileTree.Lookup
import SchemaLint.Json.Basic

/-!
Descriptions of file trees as JSON values: a list of entries that are put into a
tree one after the other. A text is an empty file, or a directory if it ends
with a separator; an object gives the path and what is there, which is the
content of a file, the target of a link, or how a program ends when it is run.

Octets are given as text or in hexadecimal, under a key with `_hex` at its end.
-/

namespace SchemaLint

namespace Json

/-- The octets that pairs of hexadecimal digits stand for. -/
def hexOctets? : Text → Option (List UInt8)
  | [] => some []
  | [_] => none
  | high :: low :: rest => do
    let octet ← Text.hexNumber? [high, low]
    let octets ← hexOctets? rest
    return UInt8.ofNat octet :: octets

/-- The octets under a key of an object, none when the key is missing. -/
def octets? (key : Text) (j : Json) : Option (List UInt8) :=
  match j.get? key, j.get? (key ++ "_hex") with
  | some value, _ => value.text?.map Text.utf8
  | none, some value => value.text?.bind hexOctets?
  | none, none => some []

/-- The natural number under a key of an object, or a default when the key is
missing. -/
def naturalOr? (key : Text) (default : Nat) (j : Json) : Option Nat :=
  match j.get? key with
  | some value => value.natural?
  | none => some default

end Json

namespace FinishedProcess

/-- Reads how a program ends: by a signal, or with an exit code that is zero
when none is given. -/
def ofJson? (j : Json) : Option FinishedProcess := do
  let stdout ← j.octets? "stdout"
  let stderr ← j.octets? "stderr"
  match j.get? "signal" with
  | some signal => return ⟨WaitStatus.ofSignal (← signal.natural?), stdout, stderr⟩
  | none => return ⟨WaitStatus.ofCode (← j.naturalOr? "code" 0), stdout, stderr⟩

end FinishedProcess

namespace FileTree

/-- An entry of a description: a path and what is there. -/
abbrev Placed := Path × FileTree

/-- Reads an entry. -/
def placed? : Json → Option Placed
  | .string t =>
    some (⟨t⟩, if t.getLast? = some '/' then empty else .file [] none)
  | j => do
    let path ← (← j.get? "path").text?
    match j.get? "link", j.get? "program" with
    | some target, _ => return (⟨path⟩, .link ⟨← target.text?⟩)
    | none, some program => return (⟨path⟩, .file [] (some (← FinishedProcess.ofJson? program)))
    | none, none => return (⟨path⟩, .file (← j.octets? "text") none)

/-- The tree with an entry put into it, its path taken from a directory. -/
def place (directory : Path) (tree : FileTree) (entry : Placed) : FileTree :=
  insert entry.2 (Path.names (directory.components ++ entry.1.components)) tree

/-- The tree that holds a directory and in it the entries of a description. -/
def ofPlaced (directory : Path) (entries : List Placed) : FileTree :=
  entries.foldl (place directory) (place directory empty (⟨[]⟩, empty))

end FileTree

/-- Reads a host: its current directory, a description of what is in it, and the
directories of its search path, none when they are missing. -/
def Host.ofJson? (j : Json) : Option Host := do
  let here ← (← j.get? "here").text?
  let dirs ← match j.get? "searchPath" with
    | some dirs => dirs.items?
    | none => some []
  let searchPath ← dirs.mapM Json.text?
  let items ← (← j.get? "tree").items?
  let entries ← items.mapM FileTree.placed?
  return ⟨FileTree.ofPlaced ⟨here⟩ entries, ⟨here⟩, searchPath.map Path.mk⟩

end SchemaLint
