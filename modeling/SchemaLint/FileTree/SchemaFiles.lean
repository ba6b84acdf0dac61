import SchemaLint.FileTree.Basic

/-!
The schema files of a directory: the regular files with the schema extension in
it and in the directories below it, entries in the order of their names.
Symbolic links are neither listed nor followed.
-/

namespace SchemaLint

/-- The extension of schema files. -/
def schemaExtension : Text := "proto"

/-- Whether a file name is that of a schema file. -/
def isSchemaName (name : Text) : Bool := Path.hasExtension schemaExtension name

namespace FileTree

/-- The order of entries in a walk: by the code points of their names. -/
def nameOrder {α : Type} (a b : Text × α) : Bool :=
  !List.lex b.1 a.1 fun x y => decide (x.toNat < y.toNat)

mutual

/-- The schema files below a directory, each as the list of names that leads to
it. -/
def schemaFiles : FileTree → List (List Text)
  | .dir entries => ((batches entries).mergeSort nameOrder).flatMap (·.2)
  | .file _ _ => []
  | .link _ => []

/-- For each entry its name and the schema files that it contributes. -/
def batches : List (Text × FileTree) → List (Text × List (List Text))
  | [] => []
  | (name, .file _ _) :: rest =>
    (name, if isSchemaName name then [[name]] else []) :: batches rest
  | (name, .link _) :: rest => (name, []) :: batches rest
  | (name, .dir entries) :: rest =>
    (name, (schemaFiles (.dir entries)).map (name :: ·)) :: batches rest

end

end FileTree

end SchemaLint
