import Mathlib
import SchemaLint.Compiler.Command
import SchemaLint.Proofs.Discovery.Exact

/-!
# The files of a command

The components that a command has met are at any time those of the files before, so it
keeps the files that are not the same as an earlier one, in order and as they are spelled
(`Command.distinct_eq_firsts`). No two of these are the same, and every discovered file is
the same as one of them (`Command.countP_distinct`). Files are discovered below the include
directories, and the flags of all of these come first, so each file that a search found
stands behind a flag for a directory that its path goes through (`Command.build_covers`).
-/

namespace SchemaLint

namespace Command

variable {paths : List Path} {p : Path}

/-! ## Each path once -/

/-- The paths that are not the same as an earlier one, in order and as they are spelled. -/
def firsts (paths : List Path) : List Path :=
  (paths.zipIdx.filter fun (p, place) => decide (∀ q ∈ paths.take place, ¬ q.Same p)).map (·.1)

/-- A path is kept if its components were not met, neither at the start nor on the way. -/
theorem distinctFrom_eq_filter (seen : List (List Path.Component)) (paths : List Path) :
    distinctFrom seen paths =
      (paths.zipIdx.filter fun (p, place) =>
        decide (p.components ∉ seen ∧ ∀ q ∈ paths.take place, ¬ q.Same p)).map (·.1) := by
  induction paths generalizing seen with
  | nil => rfl
  | cons p rest ih =>
    -- What comes after `p` is looked up one place further on, with `p` in front.
    have later : ((rest.zipIdx 1).filter fun (q, place) =>
          decide (q.components ∉ seen ∧ ∀ r ∈ (p :: rest).take place, ¬ r.Same q)).map (·.1) =
        distinctFrom (p.components :: seen) rest := by
      rw [ih, List.zipIdx_succ, List.filter_map, List.map_map]
      simp only [Function.comp_def, List.take_succ_cons, List.mem_cons, not_or, Path.Same]
      congr! 4
      grind
    rw [List.zipIdx_cons, List.filter_cons]
    by_cases met : p.components ∈ seen
    · have same : distinctFrom (p.components :: seen) rest = distinctFrom seen rest := by
        rw [ih, ih]
        congr! 4
        grind
      rw [distinctFrom, if_pos (List.elem_iff.mpr met), if_neg (by simp [met]), later, same]
    · rw [distinctFrom, if_neg (by simpa using met), if_pos (by simp [met]), List.map_cons, later]

theorem distinct_eq_firsts (paths : List Path) : distinct paths = firsts paths := by
  rw [distinct, distinctFrom_eq_filter, firsts]
  simp only [List.not_mem_nil, not_false_eq_true, true_and]

/-- What is kept is there. -/
theorem mem_of_mem_distinct (kept : p ∈ distinct paths) : p ∈ paths := by
  rw [distinct_eq_firsts, firsts] at kept
  obtain ⟨⟨q, place⟩, chosen, rfl⟩ := List.mem_map.mp kept
  exact List.fst_mem_of_mem_zipIdx (List.mem_of_mem_filter chosen)

/-- The components that are kept are those that were not met. -/
theorem mem_map_distinctFrom_iff {seen : List (List Path.Component)} {cs : List Path.Component} :
    cs ∈ (distinctFrom seen paths).map Path.components ↔
      cs ∈ paths.map Path.components ∧ cs ∉ seen := by
  induction paths generalizing seen with
  | nil => simp [distinctFrom]
  | cons p rest ih =>
    rw [distinctFrom, List.map_cons, List.mem_cons]
    split
    · next met =>
      have met : p.components ∈ seen := List.elem_iff.mp met
      rw [ih]
      grind
    · next fresh =>
      have fresh : p.components ∉ seen := by simpa using fresh
      rw [List.map_cons, List.mem_cons, ih, List.mem_cons]
      grind

/-- No two of the paths that are kept are the same. -/
theorem nodup_distinctFrom (seen : List (List Path.Component)) (paths : List Path) :
    ((distinctFrom seen paths).map Path.components).Nodup := by
  induction paths generalizing seen with
  | nil => exact .nil
  | cons p rest ih =>
    rw [distinctFrom]
    split
    · exact ih seen
    · rw [List.map_cons, List.nodup_cons]
      exact ⟨fun again => (mem_map_distinctFrom_iff.mp again).2 List.mem_cons_self, ih _⟩

/-- Every path is the same as exactly one of those that are kept. -/
theorem countP_distinct (held : p ∈ paths) : (distinct paths).countP (fun q => q.Same p) = 1 := by
  have kept : p.components ∈ (distinct paths).map Path.components :=
    mem_map_distinctFrom_iff.mpr ⟨List.mem_map_of_mem held, List.not_mem_nil⟩
  have count := List.count_eq_one_of_mem (nodup_distinctFrom [] paths) kept
  rw [List.count_eq_countP, List.countP_map] at count
  rw [← count]
  apply List.countP_congr
  intro q _
  rw [Function.comp_apply, beq_iff_eq, decide_eq_true_iff]
  exact Iff.rfl

/-! ## The whole command -/

/-- A command has a flag for each include directory, then the files that are not the same
as an earlier one, then the flag for the plugin, and so each discovered file exactly once.
A file that a search found is absolute, and before it comes the flag of a directory that
the path of the file goes through. -/
theorem build_covers (program : Text) (d : Discovery) :
    (build program d).arguments =
        d.includeDirs.map (fun dir => includeFlag ++ dir.text) ++
          (firsts d.files).map (·.text) ++ [lintFlag] ∧
      (∀ file ∈ d.files, (firsts d.files).countP (fun kept => kept.Same file) = 1) ∧
      ∀ (engine : PatternEngine) (c : Config) (host : Host) (before : List Query),
        host.here.isAbsolute = true → host.tree.WellFormed →
        ((Search.resolve engine c host).run ((Search.answerAll engine c host before).run {}).2).1 =
          .ok d →
        ∀ file ∈ firsts d.files, file.isAbsolute = true ∧
          ∃ dir ∈ d.includeDirs, host.IsDirectory dir ∧ dir.components <+: file.components := by
  rw [← distinct_eq_firsts]
  refine ⟨rfl, fun file => countP_distinct, ?_⟩
  intro engine c host before here wellFormed resolved file kept
  have found := Search.discover_of_resolve before resolved
  have held : file ∈ d.files := mem_of_mem_distinct kept
  obtain ⟨dir, included, names, -, rfl, components⟩ :=
    (Search.scanned_of_resolve resolved).exists_walk wellFormed held
  obtain ⟨absolute, directory⟩ := Search.isDirectory_of_discover here found included
  refine ⟨Path.isAbsolute_foldl_append absolute names, dir, included, directory, ?_⟩
  rw [components]
  exact List.prefix_append _ _

/-- A directory that is listed in two spellings, and one below it. Of the five files that
are found, in three directories, the command has the two that differ. -/
theorem build_covers_overlapping :
    let host : Host := { tree := .dir FileTree.linked, here := Path.root }
    let c : Config := ⟨{ listedPaths := [['d'], "d/.", "d/s"] }, [], Path.root, none⟩
    ∃ d, ((Search.resolve Pattern.dialect c host).run {}).1 = .ok d ∧ host.here.isAbsolute = true ∧
      host.tree.WellFormed ∧ d.files.length = 5 ∧
      (build "protoc" d).arguments = ["--proto_path=/d", "--proto_path=/d/.", "--proto_path=/d/s",
        "/d/a.proto", "/d/s/b.proto", "--lint_out=/.linter"] ∧
      ∃ dir ∈ d.includeDirs, dir.components <+: (⟨"/d/s/b.proto"⟩ : Path).components := by
  intro host c
  let d : Discovery := ⟨Path.root, [⟨"/d"⟩, ⟨"/d/."⟩, ⟨"/d/s"⟩],
    [⟨"/d/a.proto"⟩, ⟨"/d/s/b.proto"⟩, ⟨"/d/./a.proto"⟩, ⟨"/d/./s/b.proto"⟩, ⟨"/d/s/b.proto"⟩]⟩
  have resolved : ((Search.resolve Pattern.dialect c host).run {}).1 = .ok d := by cbv
  obtain ⟨arguments, -, covered⟩ := build_covers "protoc" d
  have files : firsts d.files = [⟨"/d/a.proto"⟩, ⟨"/d/s/b.proto"⟩] := by decide
  rw [files] at arguments covered
  obtain ⟨-, dir, included, -, inside⟩ := covered Pattern.dialect c host [] rfl
    FileTree.wellFormed_linked resolved ⟨"/d/s/b.proto"⟩ (by decide)
  exact ⟨d, resolved, rfl, FileTree.wellFormed_linked, rfl, arguments, dir, included, inside⟩

end Command

end SchemaLint
