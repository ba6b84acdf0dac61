import SchemaLint.Pattern.Dialect
import SchemaLint.Proofs.Discovery.Root
import SchemaLint.Proofs.FileTree.Walk
import SchemaLint.Proofs.Path.Components

/-!
# Which file a report is about

What a search finds is, directory by directory, what the walk of each directory
lists (`Discovery.Scanned`), so the discovered files stand in the order of the
include directories and, below one of them, in the order of their names. A report
goes to the first file that ends in what was reported.

A tool that was given the include directories means `dir/rel` when it reports
`rel`. That file is found unless another one that ends in `rel` stands before it
(`Discovery.find?_include_iff`): below an earlier include directory, or below the same one by
names that sort before those of `rel`. So a file in a subdirectory can stand in for
one of the same name in the directory itself (`Discovery.find?_subdirectory`).
-/

namespace SchemaLint

open FileTree (IsName)

/-! ## What a search finds -/

namespace Search

variable {engine : PatternEngine} {α β : Type}

/-- Every run of a step gives a result as described. -/
def Returns (x : StateM (Search engine) α) (post : α → Prop) : Prop := ∀ s, post (x.run s).1

namespace Returns

variable {x : StateM (Search engine) α} {f : α → StateM (Search engine) β} {post : α → Prop}
  {post' : β → Prop}

theorem pure {a : α} (holds : post a) : Returns (Pure.pure a : StateM (Search engine) α) post :=
  fun _ => holds

theorem bind (first : Returns x post) (each : ∀ a, post a → Returns (f a) post') :
    Returns (x >>= f) post' := fun s => each _ (first s) (x.run s).2

theorem trivial (x : StateM (Search engine) α) : Returns x fun _ => True := fun _ => True.intro

end Returns

/-- A directory with the files that a scan of it gives. -/
def IsBatch (host : Host) (batch : Path × List Path) : Prop :=
  (host.directory? batch.1).isSome = true ∧ batch.2 = scan host batch.1

variable {c : Config} {host : Host} {root : Path}

/-- With a workspace to start from, the paths to scan give batches. -/
theorem returns_scanPaths (rooted : c.workspaceRoot host.here = .ok root) (paths : List Text) :
    Returns (scanPaths engine c host paths) fun result =>
      ∃ found, result = .ok found ∧ ∀ batch ∈ found, IsBatch host batch := by
  induction paths with
  | nil => exact .pure ⟨[], rfl, fun _ held => nomatch held⟩
  | cons path paths ih =>
    refine .bind (.trivial _) fun isExcluded _ => ?_
    split
    · exact .bind (.trivial _) fun _ _ => ih
    obtain ⟨dir, absolute⟩ : ∃ dir, c.makeAbsolute host.here ⟨path⟩ = .ok dir := by
      rw [Config.makeAbsolute, rooted]
      split
      · exact ⟨_, rfl⟩
      · exact ⟨_, rfl⟩
    rw [absolute]
    dsimp only
    split
    · exact .bind (.trivial _) fun _ _ => ih
    · next directory =>
      refine .bind (.trivial _) fun _ _ => .bind ih fun result found => .pure ?_
      obtain ⟨found, rfl, batches⟩ := found
      refine ⟨(dir, scan host dir) :: found, rfl, List.forall_mem_cons.mpr ⟨⟨?_, rfl⟩, batches⟩⟩
      simpa [Option.isSome_iff_ne_none] using directory

end Search

namespace Discovery

/-- The files are those that scans of the include directories give. -/
structure Scanned (d : Discovery) (host : Host) : Prop where
  directories : ∀ dir ∈ d.includeDirs, (host.directory? dir).isSome = true
  files : d.files = d.includeDirs.flatMap (Search.scan host)

end Discovery

namespace Search

variable {engine : PatternEngine} {c : Config} {host : Host} {root : Path} {s : Search engine}
  {d : Discovery}

/-- With a workspace to start from, a search finds files. -/
theorem returns_resolve (rooted : c.workspaceRoot host.here = .ok root) :
    Returns (resolve engine c host) fun result =>
      ∃ d, result = .ok d ∧ d.root = root ∧ d.Scanned host := by
  unfold resolve
  rw [rooted]
  refine .bind (returns_scanPaths rooted c.includePaths) fun result found => ?_
  obtain ⟨found, rfl, batches⟩ := found
  refine .bind (.trivial _) fun _ _ => .pure ⟨_, rfl, rfl, ?_, ?_⟩
  · intro dir held
    obtain ⟨batch, present, rfl⟩ := List.mem_map.mp held
    exact (batches batch present).1
  · show found.flatMap (·.2) = (found.map (·.1)).flatMap (scan host)
    rw [List.flatMap_map, List.flatMap_def, List.flatMap_def,
      List.map_congr_left fun batch present => (batches batch present).2]

theorem workspaceRoot_of_resolve (resolved : ((resolve engine c host).run s).1 = .ok d) :
    c.workspaceRoot host.here = .ok d.root := by
  cases rooted : c.workspaceRoot host.here with
  | error e =>
    unfold resolve at resolved
    rw [rooted] at resolved
    cases resolved
  | ok root =>
    obtain ⟨found, result, rfl, -⟩ := returns_resolve rooted s
    rw [resolved] at result
    cases result
    rfl

theorem scanned_of_resolve (resolved : ((resolve engine c host).run s).1 = .ok d) : d.Scanned host := by
  obtain ⟨found, result, -, scanned⟩ := returns_resolve (workspaceRoot_of_resolve resolved) s
  rw [resolved] at result
  cases result
  exact scanned

end Search

/-! ## What a scan finds -/

/-- The path that a list of names leads to. -/
def Path.descend (p : Path) (names : List Text) : Path := names.foldl append p

namespace FileTree

theorem Entries.mem_of_get? {name : Text} {t : FileTree} {entries : Entries}
    (found : Entries.get? name entries = some t) : (name, t) ∈ entries := by
  induction entries with
  | nil => cases found
  | cons entry entries ih =>
    obtain ⟨n, u⟩ := entry
    rw [Entries.get?] at found
    split at found
    · next same =>
      cases found
      rw [same]
      exact List.mem_cons_self
    · exact List.mem_cons_of_mem _ (ih found)

/-- What a well-formed tree holds is well formed. -/
theorem WellFormed.at? {t u : FileTree} {place : List Text} (wellFormed : t.WellFormed)
    (found : t.at? place = some u) : u.WellFormed := by
  induction place generalizing t with
  | nil =>
    cases found
    exact wellFormed
  | cons name place ih =>
    cases wellFormed with
    | file => cases found
    | link => cases found
    | dir _ _ below =>
      obtain ⟨v, entry, found⟩ := Option.bind_eq_some_iff.mp found
      exact ih (below _ (Entries.mem_of_get? entry)) found

end FileTree

namespace Search

variable {host : Host} {dir : Path}

/-- A path that names a directory is not empty. -/
theorem ne_nil_of_directory? (isDirectory : (host.directory? dir).isSome = true) :
    dir.text ≠ [] := by
  intro empty
  have nowhere : host.find dir = .error .notFound := by
    rw [Host.find, Host.locate, empty]
    rfl
  rw [Host.directory?, nowhere] at isDirectory
  cases isDirectory

theorem wellFormed_of_directory? {entries : FileTree.Entries} (wellFormed : host.tree.WellFormed)
    (found : host.directory? dir = some entries) : (FileTree.dir entries).WellFormed := by
  unfold Host.directory? Host.find at found
  cases located : host.locate dir with
  | error e =>
    rw [located] at found
    cases found
  | ok place =>
    simp only [located] at found
    cases held : host.tree.at? place with
    | none =>
      rw [held] at found
      cases found
    | some t =>
      rw [held] at found
      cases t with
      | dir entries =>
        cases found
        exact wellFormed.at? held
      | file content program => cases found
      | link target => cases found

/-- The names that lead from a directory to the schema files below it, in the
order of the walk. -/
def walk (host : Host) (dir : Path) : List (List Text) :=
  match host.directory? dir with
  | some entries => (FileTree.dir entries).schemaFiles
  | none => []

theorem scan_eq_map (host : Host) (dir : Path) :
    scan host dir = (walk host dir).map dir.descend := by
  unfold scan walk
  cases host.directory? dir <;> rfl

theorem pairwise_walk (wellFormed : host.tree.WellFormed) (dir : Path) :
    (walk host dir).Pairwise (· < ·) := by
  unfold walk
  split
  · next entries found =>
    exact FileTree.pairwise_schemaFiles (wellFormed_of_directory? wellFormed found)
  · exact .nil

/-- The files below a directory have its components and then the names that lead
to them. -/
theorem components_of_mem_walk (wellFormed : host.tree.WellFormed)
    (isDirectory : (host.directory? dir).isSome = true) {names : List Text}
    (held : names ∈ walk host dir) :
    (dir.descend names).components = dir.components ++ names.map .name := by
  obtain ⟨entries, found⟩ := Option.isSome_iff_exists.mp isDirectory
  rw [walk, found] at held
  exact Path.components_foldl_append (ne_nil_of_directory? isDirectory)
    (FileTree.isName_of_mem_schemaFiles (wellFormed_of_directory? wellFormed found) held)

end Search

/-- Each file lies below an include directory, where a walk of it lists its names. -/
theorem Discovery.Scanned.exists_walk {host : Host} {d : Discovery} {file : Path}
    (scanned : d.Scanned host) (wellFormed : host.tree.WellFormed) (held : file ∈ d.files) :
    ∃ dir ∈ d.includeDirs, ∃ names ∈ Search.walk host dir, file = dir.descend names ∧
      file.components = dir.components ++ names.map .name := by
  rw [scanned.files] at held
  obtain ⟨dir, included, listed⟩ := List.mem_flatMap.mp held
  rw [Search.scan_eq_map] at listed
  obtain ⟨names, walked, rfl⟩ := List.mem_map.mp listed
  exact ⟨dir, included, names, walked, rfl,
    Search.components_of_mem_walk wellFormed (scanned.directories dir included) walked⟩

/-! ## The first file that ends in a report -/

/-- What a search in a sorted list finds stands before all others that fit. -/
theorem eq_or_lt_of_find? {α : Type} {R : α → α → Prop} {p : α → Bool} {l : List α} {a b : α}
    (sorted : l.Pairwise R) (found : l.find? p = some a) (held : b ∈ l) (fits : p b = true) :
    b = a ∨ R a b := by
  obtain ⟨-, before, after, rfl, absent⟩ := List.find?_eq_some_iff_append.mp found
  rcases List.mem_append.mp held with earlier | later
  · have := absent b earlier
    simp [fits] at this
  · rcases List.mem_cons.mp later with rfl | later
    · exact Or.inl rfl
    · have tail := (List.pairwise_append.mp sorted).2.1
      exact Or.inr ((List.pairwise_cons.mp tail).1 b later)

namespace Path

theorem endsWith_iff {p q : Path} : p.endsWith q = true ↔ q.components <:+ p.components :=
  List.isSuffixOf_iff_suffix

theorem endsWith_of_same {p q r : Path} (same : p.Same q) : p.endsWith r = q.endsWith r := by
  rw [endsWith, endsWith, same]

/-- A path ends in what was joined to it. -/
theorem endsWith_join {p q : Path} {names : List Text} (ne : p.text ≠ [])
    (normal : q.components = names.map .name) : (p.join q).endsWith q = true := by
  refine endsWith_iff.mpr ⟨p.components, ?_⟩
  rw [components_join ne normal, normal]

end Path

namespace Discovery

variable {d : Discovery} {host : Host} {dir rel : Path} {names : List Text}

/-- A spelling of `target` stands among the files, and none before it ends in what
was reported. -/
def Leads (d : Discovery) (reported target : Path) : Prop :=
  ∃ before file after, d.files = before ++ file :: after ∧ file.Same target ∧
    ∀ other ∈ before, other.endsWith reported = false

/-- The file found is the one meant exactly if that leads. -/
theorem same_iff_leads {file target : Path} (ends : target.endsWith rel = true)
    (found : d.find? rel.text = some file) : file.Same target ↔ d.Leads rel target := by
  obtain ⟨-, before, after, files, absent⟩ := List.find?_eq_some_iff_append.mp found
  constructor
  · intro same
    exact ⟨before, file, after, files, same, fun other held => by simpa using absent other held⟩
  · rintro ⟨before, other, after, files, same, absent⟩
    have first : d.find? rel.text = some other := by
      refine List.find?_eq_some_iff_append.mpr ⟨?_, before, after, files, fun other held => ?_⟩
      · exact (Path.endsWith_of_same same).trans ends
      · exact congrArg not (absent other held)
    rw [first] at found
    cases found
    exact same

end Discovery

section

open Search

variable {d : Discovery} {host : Host} {before after : List Path} {dir rel file : Path}
  {names : List Text}

/-- Where a directory holds a file that ends in a report, the first such file lies
below an earlier directory, or it is the first in the walk of this one. -/
theorem Discovery.Scanned.find?_cases (scanned : d.Scanned host)
    (dirs : d.includeDirs = before ++ dir :: after) (below : names ∈ walk host dir)
    (ends : (dir.descend names).endsWith rel = true) (found : d.find? rel.text = some file) :
    (∃ earlier ∈ before, file ∈ scan host earlier) ∨
      (∀ earlier ∈ before, ∀ other ∈ scan host earlier, other.endsWith rel = false) ∧
        ∃ other, (walk host dir).find? (fun names => (dir.descend names).endsWith rel) = some other ∧
          file = dir.descend other := by
  have files : d.files =
      before.flatMap (scan host) ++ ((walk host dir).map dir.descend ++ after.flatMap (scan host)) := by
    rw [scanned.files, dirs, List.flatMap_append, List.flatMap_cons, scan_eq_map]
  have split : d.find? rel.text = ((before.flatMap (scan host)).find? (·.endsWith rel)).or
      ((((walk host dir).map dir.descend).find? (·.endsWith rel)).or
        ((after.flatMap (scan host)).find? (·.endsWith rel))) := by
    rw [← List.find?_append, ← List.find?_append, ← files]
    rfl
  rw [found] at split
  cases earlier : (before.flatMap (scan host)).find? (·.endsWith rel) with
  | some first =>
    rw [earlier, Option.some_or] at split
    cases split
    exact Or.inl (List.mem_flatMap.mp (List.mem_of_find?_eq_some earlier))
  | none =>
    refine Or.inr ⟨fun dir' held other present => ?_, ?_⟩
    · simpa using List.find?_eq_none.mp earlier other (List.mem_flatMap.mpr ⟨dir', held, present⟩)
    · obtain ⟨other, first⟩ : ∃ other,
          (walk host dir).find? (fun names => (dir.descend names).endsWith rel) = some other :=
        Option.isSome_iff_exists.mp (List.find?_isSome.mpr ⟨names, below, ends⟩)
      refine ⟨other, first, ?_⟩
      rw [earlier, Option.none_or, List.find?_map, Function.comp_def, first, Option.map_some,
        Option.some_or] at split
      exact Option.some.inj split

/-- A file below a directory is `dir/rel` exactly if it has the names of `rel`. -/
theorem Search.same_join_iff (wellFormed : host.tree.WellFormed)
    (isDirectory : (host.directory? dir).isSome = true) (normal : rel.components = names.map .name)
    {other : List Text} (walked : other ∈ walk host dir) :
    (dir.descend other).Same (dir.join rel) ↔ other = names := by
  rw [Path.Same, components_of_mem_walk wellFormed isDirectory walked,
    Path.components_join (ne_nil_of_directory? isDirectory) normal, List.append_cancel_left_eq]
  exact List.map_inj_right fun _ _ same => Path.Component.name.inj same

namespace Discovery.Scanned

variable (scanned : d.Scanned host) (wellFormed : host.tree.WellFormed)
  (dirs : d.includeDirs = before ++ dir :: after) (normal : rel.components = names.map .name)
  (below : names ∈ walk host dir) (found : d.find? rel.text = some file)
include scanned wellFormed dirs normal below found

/-- The file found is `dir/rel`, or it lies below an earlier directory, or below this
one by names that sort before those of `rel`. -/
theorem same_or_before : file.Same (dir.join rel) ∨
    (∃ earlier ∈ before, file ∈ scan host earlier) ∨
      ∃ other ∈ walk host dir, file = dir.descend other ∧ other < names := by
  have isDirectory := scanned.directories dir (by simp [dirs])
  have same := (same_join_iff wellFormed isDirectory normal below).mpr rfl
  have ends := (Path.endsWith_of_same same).trans
    (Path.endsWith_join (ne_nil_of_directory? isDirectory) normal)
  rcases scanned.find?_cases dirs below ends found with earlier | ⟨-, other, first, rfl⟩
  · exact Or.inr (Or.inl earlier)
  · have walked := List.mem_of_find?_eq_some first
    rcases eq_or_lt_of_find? (pairwise_walk wellFormed dir) first below ends with rfl | sorts
    · exact Or.inl same
    · exact Or.inr (Or.inr ⟨other, walked, rfl, sorts⟩)

/-- When nothing below the earlier directories ends in `rel`, the file found is
`dir/rel` exactly if no names sort before those of `rel` and end in it. -/
theorem same_iff_least
    (absent : ∀ earlier ∈ before, ∀ other ∈ scan host earlier, other.endsWith rel = false) :
    file.Same (dir.join rel) ↔
      ∀ other ∈ walk host dir, (dir.descend other).endsWith rel = true → ¬ other < names := by
  have isDirectory := scanned.directories dir (by simp [dirs])
  have same := (same_join_iff wellFormed isDirectory normal below).mpr rfl
  have ends := (Path.endsWith_of_same same).trans
    (Path.endsWith_join (ne_nil_of_directory? isDirectory) normal)
  have fits : file.endsWith rel = true := (List.find?_eq_some_iff_append.mp found).1
  rcases scanned.find?_cases dirs below ends found with
    ⟨earlier, held, present⟩ | ⟨-, other, first, rfl⟩
  · have := absent earlier held file present
    simp [fits] at this
  · have walked := List.mem_of_find?_eq_some first
    have sorted := pairwise_walk wellFormed dir
    rw [same_join_iff wellFormed isDirectory normal walked]
    constructor
    · rintro rfl another held suffix sorts
      rcases eq_or_lt_of_find? sorted first held suffix with rfl | later
      · exact List.lt_irrefl _ sorts
      · exact List.lt_asymm sorts later
    · intro leads
      rcases eq_or_lt_of_find? sorted first below ends with same | sorts
      · exact same.symm
      · exact (leads other walked fits sorts).elim

end Discovery.Scanned

/-- A report of `rel` is about some file that ends in it. This is `dir/rel`, which
was discovered, exactly if no file that ends in `rel` stands before it. Where
`dir/rel` was found below `dir` itself, one that does lies below an earlier include
directory, or below `dir` by names that sort before those of `rel`; and when nothing
below the earlier ones ends in `rel`, the latter is what decides. -/
theorem Discovery.find?_include_iff {engine : PatternEngine} {c : Config} {s : Search engine}
    (resolved : ((resolve engine c host).run s).1 = .ok d) (wellFormed : host.tree.WellFormed)
    (dirs : d.includeDirs = before ++ dir :: after) (normal : rel.components = names.map .name)
    (held : ∃ file ∈ d.files, file.Same (dir.join rel)) :
    ∃ file, d.find? rel.text = some file ∧ file.endsWith rel = true ∧
      (file.Same (dir.join rel) ↔ d.Leads rel (dir.join rel)) ∧
      (names ∈ walk host dir →
        (¬ file.Same (dir.join rel) →
          (∃ earlier ∈ before, file ∈ scan host earlier) ∨
            ∃ other ∈ walk host dir, file = dir.descend other ∧ other < names) ∧
        ((∀ earlier ∈ before, ∀ other ∈ scan host earlier, other.endsWith rel = false) →
          (file.Same (dir.join rel) ↔
            ∀ other ∈ walk host dir, (dir.descend other).endsWith rel = true → ¬ other < names))) := by
  have scanned := scanned_of_resolve resolved
  have isDirectory := scanned.directories dir (by simp [dirs])
  have ends := Path.endsWith_join (ne_nil_of_directory? isDirectory) normal
  obtain ⟨file, found⟩ : ∃ file, d.find? rel.text = some file := by
    obtain ⟨file, present, same⟩ := held
    refine Option.isSome_iff_exists.mp (List.find?_isSome.mpr ⟨file, present, ?_⟩)
    exact (Path.endsWith_of_same same).trans ends
  have fits : file.endsWith rel = true := (List.find?_eq_some_iff_append.mp found).1
  refine ⟨file, found, fits, Discovery.same_iff_leads ends found, fun below => ⟨?_, ?_⟩⟩
  · intro differs
    exact (scanned.same_or_before wellFormed dirs normal below found).resolve_left differs
  · intro absent
    exact scanned.same_iff_least wellFormed dirs normal below found absent

end

/-! ## A file in a subdirectory -/

namespace FileTree

/-- A file next to a subdirectory that holds one of the same name. -/
def sharedName : Entries :=
  [("a", .dir [("x.proto", .file [] none)]), ("x.proto", .file [] none)]

theorem wellFormed_sharedName : (FileTree.dir sharedName).WellFormed := by
  refine .dir (by decide) (by decide) (List.forall_mem_cons.mpr ⟨?_, ?_⟩)
  · exact .dir (by decide) (by decide) (List.forall_mem_singleton.mpr .file)
  · exact List.forall_mem_singleton.mpr .file

theorem schemaFiles_sharedName :
    schemaFiles (.dir sharedName) = [(["a", "x.proto"] : List Text), ["x.proto"]] := by
  have inner : batch "a" (.dir [("x.proto", .file [] none)]) = [(["a", "x.proto"] : List Text)] := by
    rw [batch, schemaFiles_dir, List.map_singleton, List.mergeSort_singleton]
    rfl
  rw [schemaFiles_dir, sharedName, List.map_cons, List.map_singleton, inner,
    List.mergeSort_of_pairwise (by decide)]
  rfl

end FileTree

open FileTree (sharedName wellFormed_sharedName schemaFiles_sharedName)

/-- The two files below the root. -/
def Discovery.ofSharedName : Discovery :=
  ⟨Path.root, [Path.root], [⟨"/a/x.proto"⟩, ⟨"/x.proto"⟩]⟩

theorem Search.resolve_sharedName (engine : PatternEngine) :
    ((resolve engine ⟨{ listedPaths := [['/']] }, [], Path.root, none⟩
      { tree := .dir sharedName, here := Path.root }).run {}).1 = .ok .ofSharedName := by
  rw [resolve_root rfl rfl rfl rfl, FileTree.rootFiles, schemaFiles_sharedName]
  rfl

theorem Search.walk_sharedName :
    walk { tree := .dir sharedName, here := Path.root } Path.root =
      [(["a", "x.proto"] : List Text), ["x.proto"]] := by
  rw [walk, Host.directory?_root rfl]
  exact schemaFiles_sharedName

/-- A report of the file in the subdirectory, by its path from the root, is about
that file. -/
theorem Discovery.find?_include_iff_subdirectory :
    ((Search.resolve Pattern.dialect ⟨{ listedPaths := [['/']] }, [], Path.root, none⟩
      { tree := .dir sharedName, here := Path.root }).run {}).1 = .ok .ofSharedName ∧
    (FileTree.dir sharedName).WellFormed ∧
    (⟨"a/x.proto"⟩ : Path).components = (["a", "x.proto"] : List Text).map .name ∧
    ∃ file, Discovery.ofSharedName.find? "a/x.proto" = some file ∧
      file.Same (Path.root.join ⟨"a/x.proto"⟩) := by
  have normal : (⟨"a/x.proto"⟩ : Path).components = (["a", "x.proto"] : List Text).map .name := by decide
  refine ⟨Search.resolve_sharedName _, wellFormed_sharedName, normal, ?_⟩
  obtain ⟨file, found, -, -, below⟩ := Discovery.find?_include_iff
    (Search.resolve_sharedName Pattern.dialect) wellFormed_sharedName
    (show Discovery.ofSharedName.includeDirs = [] ++ Path.root :: [] from rfl)
    normal ⟨⟨"/a/x.proto"⟩, by decide⟩
  rw [Search.walk_sharedName] at below
  refine ⟨file, found, ((below (by decide)).2 (fun _ none => nomatch none)).mpr ?_⟩
  decide

/-- A report of the file in the root, by its name, is about the file in the
subdirectory instead. -/
theorem Discovery.find?_subdirectory :
    ((Search.resolve Pattern.dialect ⟨{ listedPaths := [['/']] }, [], Path.root, none⟩
      { tree := .dir sharedName, here := Path.root }).run {}).1 = .ok .ofSharedName ∧
    Discovery.ofSharedName.includeDirs = [Path.root] ∧
    (⟨"x.proto"⟩ : Path).components = (["x.proto"] : List Text).map .name ∧
    (∃ file ∈ Discovery.ofSharedName.files, file.Same (Path.root.join ⟨"x.proto"⟩)) ∧
    ¬ ∃ file, Discovery.ofSharedName.find? "x.proto" = some file ∧
      file.Same (Path.root.join ⟨"x.proto"⟩) := by
  refine ⟨Search.resolve_sharedName _, rfl, by decide, by decide, ?_⟩
  rintro ⟨file, found, same⟩
  have first : Discovery.ofSharedName.find? "x.proto" = some ⟨"/a/x.proto"⟩ := by decide
  rw [first] at found
  cases found
  exact absurd same (by decide)

end SchemaLint
