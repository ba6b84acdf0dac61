import Mathlib
import SchemaLint.Pattern.Dialect
import SchemaLint.Proofs.Discovery.Find
import SchemaLint.Proofs.Path.Absolute

/-!
# Places in the workspace

A place is the names below the workspace root, joined by separators. Joined to the
root it has the components of the file but for the double dots below the root, which
a place leaves out (`Discovery.components_join_locationOf`). Names lead on and a double
dot leads back, so a place leads back to its file exactly if the include directory that
the file was found in has no double dot below the root
(`Discovery.location_leadsBack_iff`). Dots do no harm, for they are no components; but
a directory such as `a/../b` gives places below `a/b` (`Discovery.location_doubleDot`).
-/

namespace SchemaLint

open FileTree (IsName)

/-! ## Joined names -/

namespace Path

variable {names : List Text}

theorem parts_join (some : names ≠ []) (plain : ∀ name ∈ names, '/' ∉ name) :
    parts (Text.join ['/'] names) = names := by
  induction names with
  | nil => exact (some rfl).elim
  | cons name names ih =>
    obtain ⟨first, rest⟩ := List.forall_mem_cons.mp plain
    cases names with
    | nil => exact parts_of_not_mem first
    | cons next names =>
      rw [Text.join, List.append_assoc, List.singleton_append, parts_append_cons,
        parts_of_not_mem first, ih (List.cons_ne_nil _ _) rest, List.singleton_append]

/-- Joined names have the names as components. -/
theorem filterMap_parts_join (each : ∀ name ∈ names, IsName name) :
    (parts (Text.join ['/'] names)).filterMap component? = names.map .name := by
  by_cases none : names = []
  · subst none
    rfl
  · rw [parts_join none fun name held => (each name held).2.2.2,
      List.filterMap_eq_map_iff_forall_eq_some]
    exact fun name held => component?_of_isName (each name held)

/-- Between separators of joined names there is always a name, also before the first. -/
theorem separators_join (each : ∀ name ∈ names, IsName name) :
    (Text.join ['/'] names).head? ≠ some '/' ∧ ¬ ['/', '/'] <:+: Text.join ['/'] names := by
  by_cases none : names = []
  · subst none
    exact ⟨nofun, by decide⟩
  have parts_eq := parts_join none fun name held => (each name held).2.2.2
  have notEmpty : ([] : Text) ∉ names := fun held => (each [] held).1 rfl
  rw [← parts_eq] at notEmpty
  constructor
  · intro first
    obtain ⟨rest, whole⟩ := List.head?_eq_some_iff.mp first
    have split := parts_append_cons [] rest
    rw [List.nil_append, ← whole, parts_nil] at split
    rw [split] at notEmpty
    exact notEmpty List.mem_cons_self
  · rintro ⟨before, after, whole⟩
    rw [List.append_assoc] at whole
    have split := parts_append_cons before ('/' :: after)
    have inner := parts_append_cons [] after
    rw [List.nil_append, parts_nil] at inner
    rw [inner, show before ++ '/' :: '/' :: after = Text.join ['/'] names from whole] at split
    rw [split] at notEmpty
    exact notEmpty (List.mem_append_right _ List.mem_cons_self)

/-- The names among names and double dots are what is left without the latter. -/
theorem names_eq_filter {cs : List Component} (each : ∀ c ∈ cs, c.IsInner) :
    (∀ name ∈ Path.names cs, IsName name) ∧ (Path.names cs).map .name = cs.filter (· ≠ .up) := by
  induction cs with
  | nil => exact ⟨nofun, rfl⟩
  | cons c cs ih =>
    obtain ⟨first, rest⟩ := List.forall_mem_cons.mp each
    obtain ⟨named, same⟩ := ih rest
    rcases first with rfl | ⟨name, isName, rfl⟩
    · exact ⟨named, same⟩
    · refine ⟨List.forall_mem_cons.mpr ⟨isName, named⟩, ?_⟩
      rw [List.filter_cons_of_pos (by simp), ← same]
      rfl

variable {p q : Path} {below : List Component}

/-- What follows an absolute path are names and double dots. -/
theorem isInner_of_below (absolute : p.isAbsolute = true)
    (inside : q.components = p.components ++ below) : ∀ c ∈ below, c.IsInner := by
  obtain ⟨first, rooted, -⟩ := components_of_isAbsolute absolute
  rw [rooted, List.cons_append] at inside
  have absolute : q.isAbsolute = true :=
    isAbsolute_of_root_mem (by rw [inside]; exact List.mem_cons_self)
  obtain ⟨all, whole, each⟩ := components_of_isAbsolute absolute
  obtain rfl : all = first ++ below := (List.cons.inj (whole.symm.trans inside)).2
  exact fun c held => each c (List.mem_append_right _ held)

end Path

/-! ## Places -/

namespace Discovery

variable {d : Discovery} {host : Host} {dir file : Path} {below : List Path.Component}

theorem locationOf_eq (inside : file.components = d.root.components ++ below) :
    d.locationOf file = Text.join ['/'] (Path.names below) := by
  have begins : d.root.components.isPrefixOf file.components = true := by
    rw [List.isPrefixOf_iff_prefix, inside]
    exact List.prefix_append _ _
  rw [locationOf, Path.below?, if_pos begins, inside, List.drop_left]
  rfl

/-- A place has no separator in front, and no two of them in a row. -/
theorem separators_locationOf (absolute : d.root.isAbsolute = true)
    (inside : file.components = d.root.components ++ below) :
    (d.locationOf file).head? ≠ some '/' ∧ ¬ ['/', '/'] <:+: d.locationOf file := by
  rw [locationOf_eq inside]
  exact Path.separators_join (Path.names_eq_filter (Path.isInner_of_below absolute inside)).1

/-- Joined to the root, a place has the components of the file but for the double
dots below the root. -/
theorem components_join_locationOf (absolute : d.root.isAbsolute = true)
    (inside : file.components = d.root.components ++ below) :
    (d.root.join ⟨d.locationOf file⟩).components =
      d.root.components ++ below.filter (· ≠ .up) := by
  have relative : (⟨d.locationOf file⟩ : Path).isAbsolute = false :=
    decide_eq_false (separators_locationOf absolute inside).1
  obtain ⟨named, kept⟩ := Path.names_eq_filter (Path.isInner_of_below absolute inside)
  rw [Path.join, if_neg (by simp [relative]),
    Path.components_append (Path.ne_nil_of_isAbsolute absolute), locationOf_eq inside,
    Path.filterMap_parts_join named, kept]

theorem same_join_locationOf_iff (absolute : d.root.isAbsolute = true)
    (inside : file.components = d.root.components ++ below) :
    (d.root.join ⟨d.locationOf file⟩).Same file ↔ .up ∉ below := by
  rw [Path.Same, components_join_locationOf absolute inside, inside, List.append_cancel_left_eq,
    List.filter_eq_self]
  constructor
  · intro kept held
    exact absurd (kept .up held) (by decide)
  · rintro absent c held
    rw [decide_eq_true_eq]
    rintro rfl
    exact absent held

/-- Below an include directory there are names only, so the double dots of a file are
those of its directory. -/
theorem up_mem_below_iff (wellFormed : host.tree.WellFormed)
    (isDirectory : (host.directory? dir).isSome = true) (held : file ∈ Search.scan host dir)
    (inside : file.components = d.root.components ++ below) :
    .up ∈ below ↔ .up ∈ dir.components.drop d.root.components.length := by
  rw [Search.scan_eq_map] at held
  obtain ⟨names, walked, rfl⟩ := List.mem_map.mp held
  rw [Search.components_of_mem_walk wellFormed isDirectory walked] at inside
  have split : below = dir.components.drop d.root.components.length ++
      (names.map Path.Component.name).drop (d.root.components.length - dir.components.length) := by
    rw [← List.drop_append, inside, List.drop_left]
  have plain : Path.Component.up ∉ names.map Path.Component.name := by
    intro held
    obtain ⟨name, -, same⟩ := List.mem_map.mp held
    cases same
  rw [split, List.mem_append]
  exact or_iff_left fun later => plain (List.mem_of_mem_drop later)

/-- Every place below the root of what a search found is free of leading and doubled
separators and joins to the root as the file without the double dots below the root; it
leads back to the file exactly if the include directory has none of them. -/
theorem location_leadsBack_iff {engine : PatternEngine} {c : Config} {s : Search engine} {r : Record}
    (resolved : ((Search.resolve engine c host).run s).1 = .ok d) (here : host.here.isAbsolute = true)
    (wellFormed : host.tree.WellFormed) (found : d.find? r.file = some file)
    (inside : d.root.components <+: file.components) :
    ∃ text below, d.location r = .ok text ∧ file.components = d.root.components ++ below ∧
      text.head? ≠ some '/' ∧ ¬ ['/', '/'] <:+: text ∧
      (d.root.join ⟨text⟩).components = d.root.components ++ below.filter (· ≠ .up) ∧
      (∃ dir ∈ d.includeDirs, file ∈ Search.scan host dir) ∧
      ∀ dir ∈ d.includeDirs, file ∈ Search.scan host dir →
        ((d.root.join ⟨text⟩).Same file ↔
          .up ∉ dir.components.drop d.root.components.length) := by
  have absolute := Config.isAbsolute_workspaceRoot here (Search.workspaceRoot_of_resolve resolved)
  have scanned := Search.scanned_of_resolve resolved
  obtain ⟨below, split⟩ := inside
  obtain ⟨noLead, noDouble⟩ := separators_locationOf absolute split.symm
  refine ⟨d.locationOf file, below, ?_, split.symm, noLead, noDouble,
    components_join_locationOf absolute split.symm, ?_, fun dir held present => ?_⟩
  · rw [location, found]
  · have present := List.mem_of_find?_eq_some found
    rw [scanned.files] at present
    exact List.mem_flatMap.mp present
  · rw [same_join_locationOf_iff absolute split.symm, not_iff_not]
    exact up_mem_below_iff wellFormed (scanned.directories dir held) present split.symm

end Discovery

/-! ## Dots and double dots -/

namespace FileTree

/-- A directory with a schema file, next to an empty one. -/
def neighbours : Entries := [(['a'], .dir []), (['b'], .dir [("x.proto", .file [] none)])]

theorem wellFormed_neighbours : (FileTree.dir neighbours).WellFormed := by
  refine .dir (by decide) (by decide) (List.forall_mem_cons.mpr ⟨?_, ?_⟩)
  · exact .dir .nil nofun nofun
  · exact List.forall_mem_singleton.mpr
      (.dir (by decide) (by decide) (List.forall_mem_singleton.mpr .file))

end FileTree

/-- A search from the root that scans one path. -/
def Search.neighbours (path : Text) : Except SystemError Discovery :=
  ((resolve Pattern.dialect ⟨{ listedPaths := [path] }, [], Path.root, none⟩
    { tree := .dir FileTree.neighbours, here := Path.root }).run {}).1

/-- What it finds when the path names the directory with the schema file. -/
def Discovery.neighbours (path : Text) : Discovery :=
  ⟨Path.root, [⟨'/' :: path⟩], [⟨'/' :: path ++ "/x.proto"⟩]⟩

/-- An error in the schema file. -/
def Record.missingNumber : Record :=
  .make (.compile .missingFieldNumber) .compiler "x.proto:3:1: Missing field number." "x.proto" 3 1 none

/-- Through a dot the place leads back to the file. -/
theorem Discovery.location_dot :
    Search.neighbours "./b" = .ok (.neighbours "./b") ∧ (FileTree.dir FileTree.neighbours).WellFormed ∧
    (Discovery.neighbours "./b").find? "x.proto" = some ⟨"/./b/x.proto"⟩ ∧
    Path.root.components <+: (⟨"/./b/x.proto"⟩ : Path).components ∧
    ∃ text, (Discovery.neighbours "./b").location .missingNumber = .ok text ∧
      (Path.root.join ⟨text⟩).Same ⟨"/./b/x.proto"⟩ := by
  have resolved : Search.neighbours "./b" = .ok (.neighbours "./b") := by cbv
  have found : (Discovery.neighbours "./b").find? "x.proto" = some ⟨"/./b/x.proto"⟩ := by decide
  have inside : Path.root.components <+: (⟨"/./b/x.proto"⟩ : Path).components := by decide
  refine ⟨resolved, FileTree.wellFormed_neighbours, found, inside, ?_⟩
  obtain ⟨text, below, located, -, -, -, -, ⟨dir, held, scanned⟩, back⟩ :=
    location_leadsBack_iff (r := .missingNumber) resolved rfl FileTree.wellFormed_neighbours found inside
  refine ⟨text, located, (back dir held scanned).mpr ?_⟩
  cases List.mem_singleton.mp held
  decide

/-- Through a double dot the place leads elsewhere. -/
theorem Discovery.location_doubleDot :
    Search.neighbours "a/../b" = .ok (.neighbours "a/../b") ∧
    (FileTree.dir FileTree.neighbours).WellFormed ∧
    (Discovery.neighbours "a/../b").find? "x.proto" = some ⟨"/a/../b/x.proto"⟩ ∧
    Path.root.components <+: (⟨"/a/../b/x.proto"⟩ : Path).components ∧
    (Discovery.neighbours "a/../b").location .missingNumber = .ok "a/b/x.proto" ∧
    ¬ (Path.root.join ⟨"a/b/x.proto"⟩).Same ⟨"/a/../b/x.proto"⟩ := by
  have resolved : Search.neighbours "a/../b" = .ok (.neighbours "a/../b") := by cbv
  have found : (Discovery.neighbours "a/../b").find? "x.proto" = some ⟨"/a/../b/x.proto"⟩ := by decide
  refine ⟨resolved, FileTree.wellFormed_neighbours, found, by decide, rfl, by decide⟩

end SchemaLint
