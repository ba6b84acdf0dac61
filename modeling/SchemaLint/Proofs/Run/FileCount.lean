import Mathlib
import SchemaLint.Proofs.Compiler.Command
import SchemaLint.Proofs.Run.Phases

/-!
# The files that a summary counts

A summary counts the files that were found, directory by directory, and the command has
each of them once. The two numbers are equal exactly if no file is found twice, which is
to say below two include directories (`Linter.run_files_iff`): a walk of one directory
finds no file twice (`Discovery.Scanned.nodup_files_iff`). Two directories have a file in
common exactly if one is the other, or lies below it and is walked with it
(`Host.apart_iff`), so directories that are listed twice or nested make the summary count
too many (`Linter.run_files_nested`).
-/

namespace SchemaLint

namespace Command

variable {paths : List Path} {d : Discovery}

/-! ## How many files a command has -/

/-- The arguments of a command that are no flags. -/
def fileArguments (c : Command) : List Text := c.arguments.filter fun a => a.head? ≠ some '-'

/-- Absolute paths are no flags, and all else that a command is built of is. -/
theorem fileArguments_build (program : Text)
    (absolute : ∀ file ∈ d.files, file.isAbsolute = true) :
    (build program d).fileArguments = (firsts d.files).map (·.text) := by
  have flags : (d.includeDirs.map fun dir => includeFlag ++ dir.text).filter
      (fun a => a.head? ≠ some '-') = [] := by
    apply List.filter_eq_nil_iff.mpr
    intro a held
    obtain ⟨dir, -, rfl⟩ := List.mem_map.mp held
    have flag : (includeFlag ++ dir.text).head? = some '-' := rfl
    simp [flag]
  have files : ((firsts d.files).map (·.text)).filter (fun a => a.head? ≠ some '-') =
      (firsts d.files).map (·.text) := by
    apply List.filter_eq_self.mpr
    intro a held
    obtain ⟨file, kept, rfl⟩ := List.mem_map.mp held
    rw [← distinct_eq_firsts] at kept
    have first := of_decide_eq_true (absolute file (mem_of_mem_distinct kept))
    simp [first]
  rw [fileArguments, build, distinct_eq_firsts, List.filter_append, List.filter_append, flags, files,
    List.nil_append]
  exact List.append_nil _

theorem distinctFrom_sublist (seen : List (List Path.Component)) (paths : List Path) :
    (distinctFrom seen paths).Sublist paths := by
  induction paths generalizing seen with
  | nil => exact .slnil
  | cons p rest ih =>
    rw [distinctFrom]
    split
    · exact (ih seen).cons p
    · exact (ih _).cons_cons p

theorem length_firsts_le (paths : List Path) : (firsts paths).length ≤ paths.length := by
  rw [← distinct_eq_firsts]
  exact (distinctFrom_sublist [] paths).length_le

/-- As many paths are kept as there are exactly if no two are the same. -/
theorem length_firsts_eq_iff :
    (firsts paths).length = paths.length ↔ (paths.map Path.components).Nodup := by
  rw [← distinct_eq_firsts]
  have kept := nodup_distinctFrom [] paths
  constructor
  · intro same
    rwa [(distinctFrom_sublist [] paths).eq_of_length same] at kept
  · intro apart
    have perm : ((distinct paths).map Path.components).Perm (paths.map Path.components) := by
      apply (List.perm_ext_iff_of_nodup kept apart).mpr
      intro cs
      exact mem_map_distinctFrom_iff.trans (and_iff_left List.not_mem_nil)
    simpa using perm.length_eq

end Command

/-! ## Directories that share no file -/

namespace Host

variable {host : Host} {dir dir' : Path}

/-- No file is found below both directories. -/
def Apart (host : Host) (dir dir' : Path) : Prop :=
  ∀ file ∈ Search.scan host dir, ∀ other ∈ Search.scan host dir', ¬ file.Same other

/-- Below a directory no file is found twice. -/
theorem nodup_scan (wellFormed : host.tree.WellFormed)
    (isDirectory : (host.directory? dir).isSome = true) :
    ((Search.scan host dir).map Path.components).Nodup := by
  rw [Search.scan_eq_map, List.map_map]
  apply List.Nodup.map_on
  · intro names walked others walked' same
    rw [Function.comp_apply, Function.comp_apply,
      Search.components_of_mem_walk wellFormed isDirectory walked,
      Search.components_of_mem_walk wellFormed isDirectory walked',
      List.append_cancel_left_eq] at same
    exact (List.map_inj_right fun _ _ same => Path.Component.name.inj same).mp same
  · apply (Search.pairwise_walk wellFormed dir).imp
    intro names others sorts same
    rw [same] at sorts
    exact List.lt_irrefl _ sorts

/-- The inner directory is the outer one or lies below it by names, and a walk of the outer
one goes through it to a file. -/
def Nests (host : Host) (outer inner : Path) : Prop :=
  ∃ way names, inner.components = outer.components ++ way.map .name ∧
    names ∈ Search.walk host inner ∧ way ++ names ∈ Search.walk host outer

/-- Only directories that are nested share a file. -/
theorem apart_iff (wellFormed : host.tree.WellFormed)
    (isDirectory : (host.directory? dir).isSome = true)
    (isDirectory' : (host.directory? dir').isSome = true) :
    host.Apart dir dir' ↔ ¬ host.Nests dir dir' ∧ ¬ host.Nests dir' dir := by
  have shared : ¬ host.Apart dir dir' ↔ ∃ names ∈ Search.walk host dir,
      ∃ names' ∈ Search.walk host dir',
        dir.components ++ names.map .name = dir'.components ++ names'.map .name := by
    unfold Apart
    rw [Search.scan_eq_map, Search.scan_eq_map]
    push Not
    simp only [List.mem_map, exists_exists_and_eq_and]
    refine exists_congr fun names => and_congr_right fun walked => ?_
    refine exists_congr fun names' => and_congr_right fun walked' => ?_
    rw [Path.Same, Search.components_of_mem_walk wellFormed isDirectory walked,
      Search.components_of_mem_walk wellFormed isDirectory' walked']
  -- What stands before names that end a list of names is names too.
  have rest {names names' : List Text} {more : List Path.Component}
      (whole : names.map .name = more ++ names'.map .name) :
      ∃ way, more = way.map .name ∧ names = way ++ names' := by
    obtain ⟨way, last, rfl, rfl, same⟩ := List.map_eq_append_iff.mp whole
    have same := (List.map_inj_right fun _ _ same => Path.Component.name.inj same).mp same
    exact ⟨way, rfl, by rw [same]⟩
  rw [← not_or, ← not_iff_not, not_not, shared]
  constructor
  · intro common
    obtain ⟨names, walked, names', walked', same⟩ := common
    rcases List.append_eq_append_iff.mp same with ⟨more, inner, whole⟩ | ⟨more, inner, whole⟩
    · obtain ⟨way, rfl, rfl⟩ := rest whole
      exact Or.inl ⟨way, names', inner, walked', walked⟩
    · obtain ⟨way, rfl, rfl⟩ := rest whole
      exact Or.inr ⟨way, names, inner, walked, walked'⟩
  · intro nested
    rcases nested with ⟨way, names, inner, walked', walked⟩ | ⟨way, names, inner, walked, walked'⟩
    · exact ⟨_, walked, _, walked', by rw [inner, List.map_append, List.append_assoc]⟩
    · exact ⟨_, walked, _, walked', by rw [inner, List.map_append, List.append_assoc]⟩

end Host

/-- No file is found twice exactly if the include directories share none. -/
theorem Discovery.Scanned.nodup_files_iff {host : Host} {d : Discovery} (scanned : d.Scanned host)
    (wellFormed : host.tree.WellFormed) :
    (d.files.map Path.components).Nodup ↔ d.includeDirs.Pairwise host.Apart := by
  rw [scanned.files, List.map_flatMap, List.nodup_flatMap]
  have each : ∀ dir ∈ d.includeDirs, ((Search.scan host dir).map Path.components).Nodup :=
    fun dir held => Host.nodup_scan wellFormed (scanned.directories dir held)
  have apart (dir dir' : Path) :
      List.Disjoint ((Search.scan host dir).map Path.components)
        ((Search.scan host dir').map Path.components) ↔ host.Apart dir dir' := by
    rw [List.disjoint_left, List.forall_mem_map]
    refine forall₂_congr fun file held => ?_
    rw [List.mem_map, not_exists]
    exact forall_congr' fun other => by rw [not_and, eq_comm]; exact Iff.rfl
  rw [and_iff_right each]
  exact List.Pairwise.iff apart

/-! ## The summary of a run -/

namespace Linter

variable {σ : Type} {l : Linter} {engine : PatternEngine} {host : Host} {d : Discovery}
  {invoke : Invoker} {output : ToolOutput} {sink : Sink σ} {s : σ} {summary : Summary}

theorem files_of_digest {compiler : Text}
    (digested : (digest compiler d sink output s).result = .ok (.completed summary)) :
    summary.files = d.files.length := by
  unfold digest at digested
  split at digested
  · cases digested
  · dsimp only at digested
    split at digested
    · cases digested
    · cases digested
      rfl

/-- A run that completes has run the command over what was found, and counts that. -/
theorem exists_command_of_completed
    (completed : (l.run engine host invoke sink s).result = .ok (.completed summary)) :
    ∃ d, l.Launches engine host d ∧
      (l.run engine host invoke sink s).command = some (.build l.compiler d) ∧
      summary.files = d.files.length := by
  obtain ⟨p, r, ends⟩ := exists_ends l engine host invoke sink s
  cases ends.result_eq.symm.trans completed
  cases ends with
  | @completed d _ _ hears digested =>
    obtain ⟨launches, answered⟩ := hears
    obtain ⟨opening, -, run⟩ := run_eq launches.1 launches.2 answered sink s
    exact ⟨d, launches, by rw [run], files_of_digest digested⟩

/-- The command of a run that completes has each file that was found once, while its
summary counts all of them. The summary never counts fewer files than the command has, and
it counts as many exactly if no file is found below two include directories, which happens
only to directories that are nested. -/
theorem run_files_iff (here : host.here.isAbsolute = true) (wellFormed : host.tree.WellFormed)
    (completed : (l.run engine host invoke sink s).result = .ok (.completed summary)) :
    ∃ d command, ((Search.resolve engine l.config host).run {}).1 = .ok d ∧
      (l.run engine host invoke sink s).command = some command ∧
      command.fileArguments = (Command.firsts d.files).map (·.text) ∧
      summary.files = d.files.length ∧
      command.fileArguments.length ≤ summary.files ∧
      (summary.files = command.fileArguments.length ↔ d.includeDirs.Pairwise host.Apart) ∧
      ∀ dir ∈ d.includeDirs, ∀ dir' ∈ d.includeDirs,
        (host.Apart dir dir' ↔ ¬ host.Nests dir dir' ∧ ¬ host.Nests dir' dir) := by
  obtain ⟨d, launches, command, files⟩ := exists_command_of_completed completed
  have found := Search.discover_of_resolve [] launches.1
  have scanned := Search.scanned_of_resolve launches.1
  have absolute : ∀ file ∈ d.files, file.isAbsolute = true := by
    intro file held
    obtain ⟨dir, included, names, -, rfl, -⟩ := scanned.exists_walk wellFormed held
    exact Path.isAbsolute_foldl_append (Search.isDirectory_of_discover here found included).1 names
  have arguments := Command.fileArguments_build l.compiler absolute
  refine ⟨d, _, launches.1, command, arguments, files, ?_, ?_, ?_⟩
  · rw [arguments, List.length_map, files]
    exact Command.length_firsts_le d.files
  · rw [arguments, List.length_map, files, eq_comm, Command.length_firsts_eq_iff]
    exact scanned.nodup_files_iff wellFormed
  · intro dir included dir' included'
    exact Host.apart_iff wellFormed (scanned.directories dir included)
      (scanned.directories dir' included')

/-- Below a subdirectory and a link to the directory around it, one and the same file has
two paths. The summary counts both, and the command has both. -/
theorem run_files_iff_linked :
    let host : Host := { tree := .dir FileTree.linked, here := Path.root }
    let l : Linter := ⟨⟨{ listedPaths := ["d/s", ['l']] }, [], Path.root, none⟩, "protoc"⟩
    let invoke : Invoker := fun _ => (.ok ⟨true, "exit status: 0", []⟩, [])
    let run := l.run Pattern.dialect host invoke (fun _ _ n => ⟨.ok (), n + 1, []⟩) 0
    host.here.isAbsolute = true ∧ host.tree.WellFormed ∧
      ∃ summary command, run.result = .ok (.completed summary) ∧ run.command = some command ∧
        command.fileArguments = ["/d/s/b.proto", "/l/a.proto", "/l/s/b.proto"] ∧
        summary.files = 3 := by
  intro host l invoke run
  let d : Discovery := ⟨Path.root, [⟨"/d/s"⟩, ⟨"/l"⟩],
    [⟨"/d/s/b.proto"⟩, ⟨"/l/a.proto"⟩, ⟨"/l/s/b.proto"⟩]⟩
  have found : ((Search.resolve Pattern.dialect l.config host).run {}).1 = .ok d := by cbv
  have answered : (invoke (.build l.compiler d)).1 = .ok ⟨true, "exit status: 0", []⟩ := rfl
  obtain ⟨⟨summary, completed, -⟩, -⟩ :=
    run_of_clean found (by decide) answered rfl (fun _ _ n => ⟨.ok (), n + 1, []⟩) 0
  obtain ⟨d', command, found', ran, arguments, files, -⟩ :=
    run_files_iff rfl FileTree.wellFormed_linked completed
  cases found.symm.trans found'
  exact ⟨rfl, FileTree.wellFormed_linked, summary, command, completed, ran,
    arguments.trans (by decide), files⟩

/-- A directory and one below it: the summary counts the file below both twice, and the
command has it once. -/
theorem run_files_nested :
    let host : Host := { tree := .dir FileTree.linked, here := Path.root }
    let l : Linter := ⟨⟨{ listedPaths := [['d'], "d/s"] }, [], Path.root, none⟩, "protoc"⟩
    let invoke : Invoker := fun _ => (.ok ⟨true, "exit status: 0", []⟩, [])
    let run := l.run Pattern.dialect host invoke (fun _ _ n => ⟨.ok (), n + 1, []⟩) 0
    ∃ summary command, run.result = .ok (.completed summary) ∧ run.command = some command ∧
      command.arguments = ["--proto_path=/d", "--proto_path=/d/s", "/d/a.proto", "/d/s/b.proto",
        "--lint_out=/.linter"] ∧
      command.fileArguments.length = 2 ∧ summary.files = 3 := by
  intro host l invoke run
  let d : Discovery := ⟨Path.root, [⟨"/d"⟩, ⟨"/d/s"⟩],
    [⟨"/d/a.proto"⟩, ⟨"/d/s/b.proto"⟩, ⟨"/d/s/b.proto"⟩]⟩
  have found : ((Search.resolve Pattern.dialect l.config host).run {}).1 = .ok d := by cbv
  have answered : (invoke (.build l.compiler d)).1 = .ok ⟨true, "exit status: 0", []⟩ := rfl
  obtain ⟨⟨summary, completed, -⟩, -⟩ :=
    run_of_clean found (by decide) answered rfl (fun _ _ n => ⟨.ok (), n + 1, []⟩) 0
  obtain ⟨d', launches, ran, files⟩ := exists_command_of_completed completed
  cases found.symm.trans launches.1
  exact ⟨summary, .build "protoc" d, completed, ran, by decide, by decide, files⟩

end Linter

end SchemaLint
