import SchemaLint.Discovery.Resolver
import SchemaLint.Proofs.Path.Components

/-!
# Searching from the root

The path of the root names the whole tree of a host, and a search that scans it,
with nothing excluded, finds all schema files of the tree. No link is met on the
way, so this is what every search comes down to in the end: the entries of one
directory. What the root holds is found by its name (`Host.find_root`).
-/

namespace SchemaLint

variable {engine : PatternEngine} {host : Host} {entries : FileTree.Entries}

/-- The path of the root. -/
def Path.root : Path := ⟨['/']⟩

theorem Path.parts_root : parts root.text = [[], []] := by decide

namespace Host

theorem locate_root (tree : host.tree = .dir entries) : host.locate Path.root = .ok [] := by
  have followed : host.tree.follow FileTree.maxLinks [] [[], []] = .ok [] := by
    rw [tree]
    simp only [FileTree.follow, FileTree.at?, decide_true, Bool.true_or, if_true]
  rw [locate, if_neg (by decide), if_neg (by decide), if_neg (by decide), if_pos (by decide),
    Path.parts_root]
  exact followed

theorem directory?_root (tree : host.tree = .dir entries) :
    host.directory? Path.root = some entries := by
  rw [directory?, find, locate_root tree, tree]
  rfl

/-- A name in the root leads to what the root holds, unless that is a link. -/
theorem find_root (tree : host.tree = .dir entries) {name : Text} {t : FileTree}
    (isName : FileTree.IsName name) (plain : '\x00' ∉ name)
    (short : (Text.utf8 name).length ≤ FileTree.maxName)
    (held : FileTree.Entries.get? name entries = some t) (noLink : ∀ target, t ≠ .link target) :
    host.find ⟨'/' :: name⟩ = .ok t := by
  obtain ⟨ne, noDot, noDots, noSlash⟩ := isName
  have parts : Path.parts ('/' :: name) = [[], name] := by
    have split := Path.parts_append_cons [] name
    rw [Path.parts_nil, Path.parts_of_not_mem noSlash] at split
    exact split
  have octets : (Text.utf8 ('/' :: name)).length = (Text.utf8 name).length + 1 := by
    rw [Text.utf8, List.flatMap_cons, List.length_append, Nat.add_comm]
    rfl
  have followed : host.tree.follow FileTree.maxLinks [] [[], name] = .ok [name] := by
    have long : ¬ (Text.utf8 name).length > FileTree.maxName := by omega
    rw [tree]
    cases t with
    | link target => exact (noLink target rfl).elim
    | _ => simp [FileTree.follow, FileTree.at?, ne, noDot, noDots, long, held]
  have located : host.locate ⟨'/' :: name⟩ = .ok [name] := by
    have fits : ¬ (Text.utf8 ('/' :: name)).length ≥ FileTree.maxPath := by
      unfold FileTree.maxName at short
      unfold FileTree.maxPath
      omega
    rw [locate, if_neg (by simp [plain]), if_neg (by simp), if_neg fits, if_pos (by rfl), parts]
    exact followed
  have reached : host.tree.at? [name] = some t := by
    rw [tree, FileTree.at?, held]
    rfl
  rw [find, located]
  simp only [reached]

end Host

/-- The schema files of a directory as paths below the root. -/
def FileTree.rootFiles (entries : FileTree.Entries) : List Path :=
  (FileTree.dir entries).schemaFiles.map fun names => names.foldl Path.append Path.root

/-- A single file below the root is found if it has the name of a schema file. -/
theorem FileTree.rootFiles_file (name : Text) (content : List UInt8)
    (program : Option FinishedProcess) :
    rootFiles [(name, .file content program)] =
      if isSchemaName name then [Path.root.append name] else [] := by
  rw [rootFiles, schemaFiles, batches, batches, List.mergeSort_singleton, List.flatMap_singleton]
  split <;> rfl

theorem Search.scan_root (tree : host.tree = .dir entries) :
    scan host Path.root = FileTree.rootFiles entries := by
  rw [scan, Host.directory?_root tree]
  rfl

/-- A search that scans the root finds the schema files of the whole tree. -/
theorem Search.resolve_root {c : Config} (tree : host.tree = .dir entries)
    (workspace : c.workspace = Path.root) (includes : c.includePaths = [['/']])
    (excludes : c.excludePaths = []) :
    ((resolve engine c host).run {}).1 = .ok ⟨Path.root, [Path.root], FileTree.rootFiles entries⟩ := by
  have root : c.workspaceRoot host.here = .ok Path.root := by
    rw [Config.workspaceRoot, workspace]
    rfl
  have dir : c.makeAbsolute host.here ⟨['/']⟩ = .ok Path.root := rfl
  have kept : isExcluded engine c.excludePaths ['/'] = pure false := by
    rw [excludes]
    rfl
  simp only [resolve, root, includes, scanPaths, kept, pure_bind, Bool.false_eq_true, if_false, dir,
    Host.directory?_root tree, Option.isNone_some, scan_root tree]
  -- What one directory contributes is all there is, with nothing after it.
  exact congrArg (fun files => (Except.ok ⟨Path.root, [Path.root], files⟩ : Except _ Discovery))
    (List.append_nil _)

end SchemaLint
