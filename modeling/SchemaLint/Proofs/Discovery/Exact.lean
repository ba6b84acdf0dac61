import Mathlib
import SchemaLint.Proofs.Discovery.Exclusion
import SchemaLint.Proofs.Discovery.Find
import SchemaLint.Proofs.Path.Absolute

/-!
# What a search finds, exactly

The schema files of a directory are the regular files that names lead to through
directories alone, and whose name ends in the extension with something before it
(`FileTree.HasSchema`); a walk lists each of them once, in the order of the names
(`FileTree.mem_schemaFiles_iff`, `Host.isListing_scan`). The directories are those of
the paths to scan that are not excluded and name one, in their order. So a search
finds exactly these, whatever it was asked before, unless the workspace is the empty
path (`Search.resolve_exact`), in which case it finds nothing, not even below an
absolute path (`Search.resolve_emptyWorkspace`).
-/

namespace SchemaLint

/-! ## The schema files of a tree -/

/-- A file name has the extension of schema files if there is something before it. -/
theorem isSchemaName_iff {name : Text} :
    isSchemaName name = true ↔ ∃ stem, stem ≠ [] ∧ name = stem ++ '.' :: schemaExtension := by
  rw [isSchemaName, Path.hasExtension, Bool.and_eq_true, Text.endsWith, List.isSuffixOf_iff_suffix,
    decide_eq_true_eq]
  constructor
  · rintro ⟨⟨stem, rfl⟩, longer⟩
    refine ⟨stem, ?_, rfl⟩
    rintro rfl
    simp at longer
  · rintro ⟨stem, some, rfl⟩
    refine ⟨⟨stem, rfl⟩, ?_⟩
    have := List.length_pos_iff.mpr some
    simp only [List.length_append, List.length_cons]
    omega

namespace FileTree

/-- Names that lead, through directories and past no link, to a regular file with the
extension of schema files. -/
def HasSchema (t : FileTree) (names : List Text) : Prop :=
  (∃ content program, t.at? names = some (.file content program)) ∧
    ∃ way stem, stem ≠ [] ∧ names = way ++ [stem ++ '.' :: schemaExtension]

theorem Entries.get?_eq_some_iff {entries : Entries} (distinct : (entries.map (·.1)).Nodup)
    {name : Text} {t : FileTree} : Entries.get? name entries = some t ↔ (name, t) ∈ entries := by
  refine ⟨mem_of_get?, fun held => ?_⟩
  induction entries with
  | nil => cases held
  | cons entry entries ih =>
    obtain ⟨n, u⟩ := entry
    obtain ⟨fresh, rest⟩ := List.nodup_cons.mp distinct
    rw [get?]
    rcases List.mem_cons.mp held with same | later
    · cases same
      rw [if_pos rfl]
    · have differs : n ≠ name := by
        rintro rfl
        exact fresh (List.mem_map.mpr ⟨_, later, rfl⟩)
      rw [if_neg differs]
      exact ih rest later

/-- A name of a directory leads to what the entry with this name leads to. -/
theorem hasSchema_cons_iff {entries : Entries} {name : Text} {names : List Text}
    (distinct : (entries.map (·.1)).Nodup) (more : names ≠ []) :
    HasSchema (.dir entries) (name :: names) ↔
      ∃ t, (name, t) ∈ entries ∧ t.HasSchema names := by
  have ends : (∃ way stem, stem ≠ [] ∧ name :: names = way ++ [stem ++ '.' :: schemaExtension]) ↔
      ∃ way stem, stem ≠ [] ∧ names = way ++ [stem ++ '.' :: schemaExtension] := by
    constructor
    · rintro ⟨way, stem, some, whole⟩
      cases way with
      | nil =>
        cases whole
        exact (more rfl).elim
      | cons first way =>
        cases whole
        exact ⟨way, stem, some, rfl⟩
    · rintro ⟨way, stem, some, rfl⟩
      exact ⟨name :: way, stem, some, rfl⟩
  have leads {u : FileTree} : at? (name :: names) (.dir entries) = some u ↔
      ∃ t, (name, t) ∈ entries ∧ t.at? names = some u := by
    rw [at?, Option.bind_eq_some_iff]
    exact exists_congr fun t => and_congr_left fun _ => Entries.get?_eq_some_iff distinct
  unfold HasSchema
  rw [ends]
  simp only [leads]
  constructor
  · rintro ⟨⟨content, program, t, held, found⟩, named⟩
    exact ⟨t, held, ⟨content, program, found⟩, named⟩
  · rintro ⟨t, held, ⟨content, program, found⟩, named⟩
    exact ⟨⟨content, program, t, held, found⟩, named⟩

theorem hasSchema_singleton_iff {entries : Entries} {name : Text}
    (distinct : (entries.map (·.1)).Nodup) :
    HasSchema (.dir entries) [name] ↔
      (∃ content program, (name, .file content program) ∈ entries) ∧ isSchemaName name = true := by
  unfold HasSchema
  rw [isSchemaName_iff]
  refine and_congr (exists_congr fun content => exists_congr fun program => ?_) ?_
  · rw [at?, Option.bind_eq_some_iff, ← Entries.get?_eq_some_iff distinct]
    constructor
    · rintro ⟨t, found, same⟩
      cases same
      exact found
    · exact fun found => ⟨_, found, rfl⟩
  · constructor
    · rintro ⟨way, stem, some, whole⟩
      obtain rfl : way = [] := by
        cases way with
        | nil => rfl
        | cons first way => cases way <;> cases whole
      exact ⟨stem, some, (List.cons.inj whole).1⟩
    · rintro ⟨stem, some, rfl⟩
      exact ⟨[], stem, some, rfl⟩

theorem HasSchema.ne_nil {t : FileTree} {names : List Text} (schema : t.HasSchema names) :
    names ≠ [] := by
  obtain ⟨-, way, stem, -, rfl⟩ := schema
  exact List.append_ne_nil_of_right_ne_nil way (List.cons_ne_nil _ _)

/-- Below what is no directory there is no schema file. -/
theorem not_hasSchema {t : FileTree} (leaf : ∀ entries, t ≠ .dir entries) (names : List Text) :
    ¬ t.HasSchema names := by
  intro schema
  obtain ⟨name, rest, rfl⟩ := List.exists_cons_of_ne_nil schema.ne_nil
  obtain ⟨⟨content, program, found⟩, -⟩ := schema
  cases t with
  | file content program => cases found
  | link target => cases found
  | dir entries => exact leaf entries rfl

/-- An entry contributes itself, or what is below it. -/
theorem mem_batch_iff {name : Text} {t : FileTree} {names : List Text} :
    names ∈ batch name t ↔
      (names = [name] ∧ isSchemaName name = true ∧ ∃ content program, t = .file content program) ∨
        ∃ rest ∈ t.schemaFiles, names = name :: rest := by
  cases t with
  | file content program =>
    rw [batch, schemaFiles]
    split
    · next schema => simp [schema]
    · next other => simp [other]
  | link target => simp [batch, schemaFiles]
  | dir entries =>
    rw [batch, List.mem_map]
    constructor
    · rintro ⟨rest, below, rfl⟩
      exact Or.inr ⟨rest, below, rfl⟩
    · rintro (⟨-, -, content, program, same⟩ | ⟨rest, below, rfl⟩)
      · cases same
      · exact ⟨rest, below, rfl⟩

/-- A walk lists the schema files of a tree, and nothing else. -/
theorem mem_schemaFiles_iff {t : FileTree} (wellFormed : t.WellFormed) {names : List Text} :
    names ∈ t.schemaFiles ↔ t.HasSchema names := by
  induction wellFormed generalizing names with
  | file => exact iff_of_false List.not_mem_nil (not_hasSchema (fun _ same => by cases same) names)
  | link => exact iff_of_false List.not_mem_nil (not_hasSchema (fun _ same => by cases same) names)
  | @dir entries distinct _ _ ih =>
    rw [mem_schemaFiles_dir]
    constructor
    · rintro ⟨⟨name, t⟩, held, contributed⟩
      rcases mem_batch_iff.mp contributed with ⟨rfl, named, content, program, rfl⟩ | ⟨rest, below, rfl⟩
      · exact (hasSchema_singleton_iff distinct).mpr ⟨⟨content, program, held⟩, named⟩
      · have schema := (ih (name, t) held).mp below
        exact (hasSchema_cons_iff distinct schema.ne_nil).mpr ⟨t, held, schema⟩
    · intro schema
      obtain ⟨name, rest, rfl⟩ := List.exists_cons_of_ne_nil schema.ne_nil
      by_cases last : rest = []
      · subst last
        obtain ⟨⟨content, program, held⟩, named⟩ := (hasSchema_singleton_iff distinct).mp schema
        exact ⟨_, held, mem_batch_iff.mpr (Or.inl ⟨rfl, named, content, program, rfl⟩)⟩
      · obtain ⟨t, held, below⟩ := (hasSchema_cons_iff distinct last).mp schema
        exact ⟨_, held, mem_batch_iff.mpr (Or.inr ⟨rest, (ih (name, t) held).mpr below, rfl⟩)⟩

end FileTree

/-! ## The files of a directory -/

namespace Host

variable {host : Host} {dir : Path}

/-- A path names a directory. Links on the way to it and at its end are followed. -/
def IsDirectory (host : Host) (dir : Path) : Prop :=
  ∃ entries, host.find dir = .ok (.dir entries)

theorem directory?_eq_some_iff {entries : FileTree.Entries} :
    host.directory? dir = some entries ↔ host.find dir = .ok (.dir entries) := by
  unfold directory?
  split
  · next other found =>
    rw [found]
    constructor
    · rintro ⟨⟩
      rfl
    · rintro ⟨⟩
      rfl
  · next none =>
    refine iff_of_false nofun fun found => ?_
    exact none entries found

theorem isSome_directory?_iff : (host.directory? dir).isSome = true ↔ host.IsDirectory dir := by
  rw [Option.isSome_iff_exists]
  exact exists_congr fun entries => directory?_eq_some_iff

instance (host : Host) (dir : Path) : Decidable (host.IsDirectory dir) :=
  decidable_of_iff _ isSome_directory?_iff

/-- The files of a directory as a walk should list them: those that the names of its
schema files lead to, each once and in the order of the names, all of them absolute
and with the components of the directory before their names. -/
def IsListing (host : Host) (dir : Path) (files : List Path) : Prop :=
  ∃ (entries : FileTree.Entries) (walk : List (List Text)), host.find dir = .ok (.dir entries) ∧
    (∀ names, names ∈ walk ↔ (FileTree.dir entries).HasSchema names) ∧
    walk.Pairwise (· < ·) ∧ files = walk.map dir.descend ∧
    ∀ names ∈ walk, (dir.descend names).isAbsolute = true ∧
      (dir.descend names).components = dir.components ++ names.map .name

theorem isListing_scan (wellFormed : host.tree.WellFormed) (absolute : dir.isAbsolute = true)
    (directory : host.IsDirectory dir) : host.IsListing dir (Search.scan host dir) := by
  obtain ⟨entries, found⟩ := directory
  have isSome := isSome_directory?_iff.mpr ⟨entries, found⟩
  have walk : Search.walk host dir = (FileTree.dir entries).schemaFiles := by
    rw [Search.walk, directory?_eq_some_iff.mpr found]
  have inside := Search.wellFormed_of_directory? wellFormed (directory?_eq_some_iff.mpr found)
  refine ⟨entries, Search.walk host dir, found, fun names => ?_,
    Search.pairwise_walk wellFormed dir, Search.scan_eq_map host dir, fun names held => ?_⟩
  · rw [walk]
    exact FileTree.mem_schemaFiles_iff inside
  · exact ⟨Path.isAbsolute_foldl_append absolute names,
      Search.components_of_mem_walk wellFormed isSome held⟩

end Host

/-! ## The whole search -/

namespace Config

instance (c : Config) (engine : PatternEngine) (path : Text) :
    Decidable (c.Excludes engine path) :=
  decidable_of_iff _ any_excludes_iff

theorem isScanned_eq (c : Config) (engine : PatternEngine) (host : Host) (root : Path)
    (path : Text) :
    c.isScanned engine host root path =
      decide (¬ c.Excludes engine path ∧ host.IsDirectory (root.join ⟨path⟩)) := by
  rw [Bool.eq_iff_iff, isScanned, Bool.and_eq_true, Bool.not_eq_true', ← Bool.not_eq_true,
    any_excludes_iff, Host.isSome_directory?_iff, decide_eq_true_eq]

end Config

namespace Search

section

variable {engine : PatternEngine} {c : Config} {host : Host} {d : Discovery}

/-- Whatever a search was asked before, it finds what its configuration gives. -/
theorem discover_of_resolve (before : List Query)
    (resolved : ((resolve engine c host).run ((answerAll engine c host before).run {}).2).1 = .ok d) :
    c.discover engine host = .ok d := by
  obtain ⟨-, faithful⟩ := gives_answerAll engine c host before {} .empty
  exact (gives_resolve c host _ faithful).1.symm.trans resolved

/-- The include directories are directories, and absolute. -/
theorem isDirectory_of_discover (here : host.here.isAbsolute = true)
    (found : c.discover engine host = .ok d) {dir : Path} (held : dir ∈ d.includeDirs) :
    dir.isAbsolute = true ∧ host.IsDirectory dir := by
  cases rooted : c.workspaceRoot host.here with
  | error e =>
    rw [Config.discover, rooted] at found
    cases found
  | ok root =>
    rw [Config.discover, rooted] at found
    cases found
    obtain ⟨path, scanned, rfl⟩ := List.mem_map.mp held
    have kept := (List.mem_filter.mp scanned).2
    rw [Config.isScanned_eq] at kept
    exact ⟨Path.isAbsolute_join (Config.isAbsolute_workspaceRoot here rooted) _,
      (of_decide_eq_true kept).2⟩

end

/-- A search, whatever it was asked before, gives the directories of the configured
paths that are not excluded and name one, in their order and made absolute, and of each
the files in the order of their names; unless the workspace is the empty path, which
cannot be made absolute. -/
theorem resolve_exact (engine : PatternEngine) (c : Config) (host : Host) (before : List Query)
    (here : host.here.isAbsolute = true) (wellFormed : host.tree.WellFormed) :
    let found := ((resolve engine c host).run ((answerAll engine c host before).run {}).2).1
    (c.workspace.text = [] ∧ found = .error .emptyPath) ∨
      c.workspace.text ≠ [] ∧ ∃ d, found = .ok d ∧
        (∃ absolute : Text → Path,
          (∀ path, c.makeAbsolute host.here ⟨path⟩ = .ok (absolute path)) ∧
          d.includeDirs = (c.includePaths.filter fun path =>
            ¬ c.Excludes engine path ∧ host.IsDirectory (absolute path)).map absolute) ∧
        (∀ dir ∈ d.includeDirs, dir.isAbsolute = true) ∧
        ∃ batches, d.files = batches.flatten ∧ List.Forall₂ host.IsListing d.includeDirs batches := by
  intro found
  obtain ⟨-, faithful⟩ := gives_answerAll engine c host before {} .empty
  have result : found = c.discover engine host := (gives_resolve c host _ faithful).1
  rw [result, Config.discover]
  by_cases empty : c.workspace.text = []
  · refine Or.inl ⟨empty, ?_⟩
    rw [Config.workspaceRoot_of_empty empty]
    rfl
  obtain ⟨root, rooted, absolute⟩ := Config.exists_workspaceRoot (c := c) empty here
  have dirs : c.scannedDirs engine host root = (c.includePaths.filter fun path =>
      ¬ c.Excludes engine path ∧ host.IsDirectory (root.join ⟨path⟩)).map fun path =>
        root.join ⟨path⟩ := by
    rw [Config.scannedDirs]
    exact congrArg _ (congrArg (List.filter · _) (funext (c.isScanned_eq engine host root)))
  have inside : ∀ dir ∈ c.scannedDirs engine host root, dir.isAbsolute = true ∧ host.IsDirectory dir := by
    intro dir held
    rw [dirs] at held
    obtain ⟨path, kept, rfl⟩ := List.mem_map.mp held
    have scanned := of_decide_eq_true (List.mem_filter.mp kept).2
    exact ⟨Path.isAbsolute_join absolute _, scanned.2⟩
  rw [rooted]
  refine Or.inr ⟨empty, _, rfl, ⟨fun path => root.join ⟨path⟩,
    fun path => Config.makeAbsolute_eq rooted ⟨path⟩, dirs⟩, fun dir held => (inside dir held).1,
    (c.scannedDirs engine host root).map (scan host), List.flatMap_def .., ?_⟩
  rw [List.forall₂_map_right_iff, List.forall₂_same]
  exact fun dir held => Host.isListing_scan wellFormed (inside dir held).1 (inside dir held).2

end Search

namespace FileTree

/-- Entries of the root: a link to a directory that holds a schema file, a file whose
whole name is the extension, a link to its subdirectory, and one more file below that. -/
def linked : FileTree.Entries :=
  [(['l'], .link ⟨['d']⟩),
   (['d'], .dir [("a.proto", .file [] none), (".proto", .file [] none), (['k'], .link ⟨['s']⟩),
     (['s'], .dir [("b.proto", .file [] none)])])]

theorem wellFormed_linked : (FileTree.dir linked).WellFormed := by
  refine .dir (by decide) (by decide) (List.forall_mem_cons.mpr ⟨.link, ?_⟩)
  refine List.forall_mem_singleton.mpr (.dir (by decide) (by decide) ?_)
  refine List.forall_mem_cons.mpr ⟨.file, List.forall_mem_cons.mpr ⟨.file, ?_⟩⟩
  refine List.forall_mem_cons.mpr ⟨.link, List.forall_mem_singleton.mpr ?_⟩
  exact .dir (by decide) (by decide) (List.forall_mem_singleton.mpr .file)

end FileTree

namespace Search

open FileTree (linked wellFormed_linked)

/-- Below a link to a directory two files are found, and they are all there are. -/
theorem resolve_exact_linked :
    let host : Host := { tree := .dir linked, here := Path.root }
    let c : Config :=
      ⟨{ listedPaths := [['d'], ['l'], ['x']], excludePaths := [['d']] }, [], Path.root, none⟩
    ((resolve Pattern.dialect c host).run {}).1 =
        .ok ⟨Path.root, [⟨['/', 'l']⟩], [⟨"/l/a.proto"⟩, ⟨"/l/s/b.proto"⟩]⟩ ∧
      host.here.isAbsolute = true ∧ host.tree.WellFormed ∧
      host.IsListing ⟨['/', 'l']⟩ [⟨"/l/a.proto"⟩, ⟨"/l/s/b.proto"⟩] := by
  intro host c
  have result : ((resolve Pattern.dialect c host).run {}).1 =
      .ok ⟨Path.root, [⟨['/', 'l']⟩], [⟨"/l/a.proto"⟩, ⟨"/l/s/b.proto"⟩]⟩ := by
    cbv
  refine ⟨result, rfl, wellFormed_linked, ?_⟩
  rcases resolve_exact Pattern.dialect c host [] rfl wellFormed_linked with
    ⟨empty, -⟩ | ⟨-, d, found, -, -, batches, files, listed⟩
  · cases empty
  · cases result.symm.trans found
    obtain ⟨batch, others, listing, none, rfl⟩ := List.forall₂_cons_left_iff.mp listed
    cases none
    rw [List.flatten_cons, List.flatten_nil, List.append_nil] at files
    subst files
    exact listing

/-- With the empty path as workspace nothing is found, though the path to scan is
absolute, is not excluded and names a directory. -/
theorem resolve_emptyWorkspace :
    let host : Host := { tree := .dir [("a.proto", .file [] none)], here := Path.root }
    let c : Config := ⟨{ listedPaths := [['/']] }, [], ⟨[]⟩, none⟩
    host.here.isAbsolute = true ∧ c.includePaths = [['/']] ∧ ¬ c.Excludes Pattern.dialect ['/'] ∧
      c.makeAbsolute host.here ⟨['/']⟩ = .ok Path.root ∧ host.IsDirectory Path.root ∧
      ¬ ∃ d, ((resolve Pattern.dialect c host).run {}).1 = .ok d := by
  intro host c
  refine ⟨rfl, rfl, ?_, rfl, ?_, ?_⟩
  · rintro ⟨entry, held, -⟩
    cases held
  · exact ⟨_, Host.directory?_eq_some_iff.mp (Host.directory?_root rfl)⟩
  · rintro ⟨d, found⟩
    cases found

end Search

end SchemaLint
