import SchemaLint.Discovery.Query
import SchemaLint.Proofs.Discovery.Log
import SchemaLint.Proofs.Path.Absolute

/-!
# What a search remembers

A search remembers what it made of an entry, so which entries are compiled
depends on what it was asked before. Its answers do not: a memory is faithful if all it holds
is what compiling gives and if its log warns once about an entry, namely when it is
remembered not to be a pattern (`Search.Faithful`). `Gives x a` says that a step
gives `a` from any faithful memory and leaves a faithful one. It passes through
sequencing, so every step of a search gives what the same rule gives without memory:
`excludes` for one entry, `Config.discover` for the schema files, `Query.reply` for
a query (`Search.gives_answerAll`).
-/

namespace SchemaLint

/-- The entries that a log warns about, each with the reason, in order. -/
def warnings (log : List Event) : List (Text × Text) :=
  log.filterMap fun e => match e with
    | .notAPattern entry reason => some (entry, reason)
    | _ => none

@[simp] theorem warnings_append (log events : List Event) :
    warnings (log ++ events) = warnings log ++ warnings events := List.filterMap_append ..

/-! ## Without memory -/

section

variable (engine : PatternEngine) (c : Config) (host : Host)

/-- Whether a path is to be scanned: it is not excluded, and taken from the workspace
it names a directory. -/
def Config.isScanned (root : Path) (path : Text) : Bool :=
  !c.excludePaths.any (excludes engine · path) && (host.directory? (root.join ⟨path⟩)).isSome

/-- The paths to be scanned, taken from the workspace. -/
def Config.scannedDirs (root : Path) : List Path :=
  (c.includePaths.filter (isScanned engine c host root)).map fun path => root.join ⟨path⟩

/-- The schema files of a configuration. -/
def Config.discover : Except SystemError Discovery :=
  (c.workspaceRoot host.here).map fun root =>
    let dirs := scannedDirs engine c host root
    ⟨root, dirs, dirs.flatMap (Search.scan host)⟩

/-- The answer to a query. -/
def Query.reply : Query → Answer
  | .root => .ofResult .path (c.workspaceRoot host.here)
  | .absolute p => .ofResult .path (c.makeAbsolute host.here p)
  | .excluded path => .verdict (c.excludePaths.any (excludes engine · path))
  | .files => .ofResult .found (c.discover engine host)

end

namespace Search

/-! ## Faithful memories -/

variable {engine : PatternEngine}

/-- All that is remembered is what compiling gives, and the log warns of entries that
are remembered not to be patterns, of each once and with the reason. -/
structure Faithful (s : Search engine) : Prop where
  known : ∀ entry found, s.patterns.lookup entry = some found →
    (engine.compile entry).toOption = found
  reasons : ∀ w ∈ warnings s.log, engine.compile w.1 = .error w.2
  once : ((warnings s.log).map (·.1)).Nodup
  remembered : ∀ w ∈ warnings s.log, s.patterns.lookup w.1 = some none

theorem Faithful.empty : Faithful ({} : Search engine) := ⟨nofun, nofun, .nil, nofun⟩

variable {α β : Type}

/-- A step that gives `a` from any faithful memory, and leaves a faithful one. -/
def Gives (x : StateM (Search engine) α) (a : α) : Prop :=
  ∀ s, s.Faithful → (x.run s).1 = a ∧ (x.run s).2.Faithful

namespace Gives

theorem pure (a : α) : Gives (Pure.pure a : StateM (Search engine) α) a :=
  fun _ faithful => ⟨rfl, faithful⟩

theorem bind {x : StateM (Search engine) α} {f : α → StateM (Search engine) β} {a : α} {b : β}
    (first : Gives x a) (next : Gives (f a) b) : Gives (x >>= f) b := by
  intro s faithful
  obtain ⟨result, kept⟩ := first s faithful
  have after := next (x.run s).2 kept
  rw [← result] at after
  exact after

theorem noteAll {events : List Event} (silent : warnings events = []) :
    Gives (Search.noteAll events : StateM (Search engine) Unit) () := by
  intro s faithful
  have same : warnings (s.log ++ events) = warnings s.log := by
    rw [warnings_append, silent, List.append_nil]
  refine ⟨rfl, faithful.known, ?_, ?_, ?_⟩
  · show ∀ w ∈ warnings (s.log ++ events), _
    rw [same]
    exact faithful.reasons
  · show ((warnings (s.log ++ events)).map (·.1)).Nodup
    rw [same]
    exact faithful.once
  · show ∀ w ∈ warnings (s.log ++ events), _
    rw [same]
    exact faithful.remembered

theorem note {e : Event} (silent : warnings [e] = []) :
    Gives (Search.note e : StateM (Search engine) Unit) () :=
  noteAll silent

end Gives

/-! ## The steps of a search -/

section

variable {s : Search engine} {entry : Text}

/-- An entry that is not remembered has not been warned about. -/
theorem Faithful.not_mem_warnings (faithful : s.Faithful)
    (unknown : s.patterns.lookup entry = none) : entry ∉ (warnings s.log).map (·.1) := by
  intro warned
  obtain ⟨w, held, rfl⟩ := List.mem_map.mp warned
  rw [faithful.remembered w held] at unknown
  cases unknown

/-- An entry that is new to a memory may be remembered as what it compiles to. -/
theorem Faithful.remember (faithful : s.Faithful) (unknown : s.patterns.lookup entry = none)
    {found : Option engine.Compiled} (compiled : (engine.compile entry).toOption = found) :
    Faithful { s with patterns := (entry, found) :: s.patterns } := by
  refine ⟨fun other kept held => ?_, faithful.reasons, faithful.once, fun w warned => ?_⟩
  · rw [List.lookup_cons] at held
    split at held
    · next same =>
      cases held
      rw [eq_of_beq same, compiled]
    · exact faithful.known other kept held
  · have differs : (w.1 == entry) = false := by
      rw [beq_eq_false_iff_ne]
      rintro rfl
      exact faithful.not_mem_warnings unknown (List.mem_map_of_mem warned)
    rw [List.lookup_cons, differs]
    exact faithful.remembered w warned

/-- An entry that is remembered not to be a pattern may be warned about for the first
time. -/
theorem Faithful.warn (faithful : s.Faithful) (other : s.patterns.lookup entry = some none)
    (fresh : entry ∉ (warnings s.log).map (·.1)) {reason : Text}
    (refused : engine.compile entry = .error reason) :
    Faithful { s with log := s.log ++ [.notAPattern entry reason] } := by
  have more : warnings (s.log ++ [.notAPattern entry reason]) =
      warnings s.log ++ [(entry, reason)] := warnings_append ..
  refine ⟨faithful.known, ?_, ?_, ?_⟩
  · show ∀ w ∈ warnings (s.log ++ _), _
    rw [more, List.forall_mem_append, List.forall_mem_singleton]
    exact ⟨faithful.reasons, refused⟩
  · show ((warnings (s.log ++ _)).map (·.1)).Nodup
    rw [more, List.map_append, List.map_singleton]
    refine List.nodup_append.mpr ⟨faithful.once, List.pairwise_singleton _ entry, ?_⟩
    intro earlier warned last held same
    obtain rfl := List.mem_singleton.mp held
    rw [same] at warned
    exact fresh warned
  · show ∀ w ∈ warnings (s.log ++ _), _
    rw [more, List.forall_mem_append, List.forall_mem_singleton]
    exact ⟨faithful.remembered, other⟩

end

theorem gives_pattern? (entry : Text) :
    Gives (pattern? engine entry) (engine.compile entry).toOption := by
  intro s faithful
  rw [run_pattern?]
  split
  · next found known => exact ⟨(faithful.known entry found known).symm, faithful⟩
  next unknown =>
  cases compiled : engine.compile entry with
  | ok p => exact ⟨rfl, faithful.remember unknown (by rw [compiled]; rfl)⟩
  | error reason =>
    have kept : Faithful { s with patterns := (entry, none) :: s.patterns } :=
      faithful.remember unknown (by rw [compiled]; rfl)
    have remembered : List.lookup entry ((entry, none) :: s.patterns) = some none := by
      rw [List.lookup_cons, beq_self_eq_true]
    exact ⟨rfl, kept.warn remembered (faithful.not_mem_warnings unknown) compiled⟩

theorem gives_matchesEntry (path entry : Text) :
    Gives (matchesEntry engine path entry) (excludes engine entry path) := by
  unfold matchesEntry excludes
  split
  · next begins =>
    rw [begins, Bool.true_or]
    exact .pure true
  next begins =>
  rw [Bool.not_eq_true _ |>.mp begins, Bool.false_or]
  refine .bind (gives_pattern? entry) ?_
  cases engine.compile entry with
  | error reason => exact .pure false
  | ok p =>
    dsimp only [Except.toOption]
    split
    · next matched =>
      rw [decide_eq_true matched]
      exact .bind (.note rfl) (.pure true)
    · next unmatched =>
      rw [decide_eq_false unmatched]
      exact .pure false

theorem gives_matchesAny (path : Text) (entries : List Text) :
    Gives (matchesAny engine path entries) (entries.any (excludes engine · path)) := by
  induction entries with
  | nil => exact .pure false
  | cons entry entries ih =>
    refine .bind (gives_matchesEntry path entry) ?_
    rw [List.any_cons]
    cases excludes engine entry path with
    | true => exact .pure true
    | false => exact ih

theorem excludes_self (path : Text) : excludes engine path path = true := by
  rw [excludes, Bool.or_eq_true]
  exact Or.inl (List.isPrefixOf_iff_prefix.mpr (List.prefix_refl path))

/-- Equality with an entry decides at once, as a path begins with itself. -/
theorem gives_isExcluded (entries : List Text) (path : Text) :
    Gives (isExcluded engine entries path) (entries.any (excludes engine · path)) := by
  unfold isExcluded
  split
  · next listed =>
    have excluded : entries.any (excludes engine · path) = true :=
      List.any_eq_true.mpr ⟨path, List.elem_iff.mp listed, excludes_self path⟩
    rw [excluded]
    exact .pure true
  · exact gives_matchesAny path entries

theorem warnings_foundEvents (files : List Path) : warnings (foundEvents files) = [] := by
  unfold foundEvents
  split
  · rfl
  · show warnings (files.map .foundFile) = []
    unfold warnings
    rw [List.filterMap_map]
    exact List.filterMap_eq_nil_iff.mpr fun _ _ => rfl

variable {c : Config} {host : Host} {root : Path}

theorem gives_scanPaths (rooted : c.workspaceRoot host.here = .ok root) (paths : List Text) :
    Gives (scanPaths engine c host paths)
      (.ok ((paths.filter (c.isScanned engine host root)).map fun path =>
        (root.join ⟨path⟩, scan host (root.join ⟨path⟩)))) := by
  induction paths with
  | nil => exact .pure _
  | cons path paths ih =>
    refine .bind (gives_isExcluded c.excludePaths path) ?_
    rw [List.filter_cons, Config.isScanned]
    cases c.excludePaths.any (excludes engine · path) with
    | true => exact .bind (.note rfl) ih
    | false =>
      rw [if_neg Bool.false_ne_true, Config.makeAbsolute_eq rooted]
      dsimp only
      cases host.directory? (root.join ⟨path⟩) with
      | none => exact .bind (.note rfl) ih
      | some entries => exact .bind (.noteAll (warnings_foundEvents _)) (.bind ih (.pure _))

theorem gives_resolve (c : Config) (host : Host) :
    Gives (resolve engine c host) (c.discover engine host) := by
  unfold resolve Config.discover
  cases rooted : c.workspaceRoot host.here with
  | error e => exact .pure _
  | ok root =>
    refine .bind (gives_scanPaths rooted c.includePaths) (.bind (.note rfl) ?_)
    dsimp only [Except.map]
    rw [List.flatMap_map, List.map_map, Config.scannedDirs, List.flatMap_map]
    exact .pure _

theorem gives_answer (query : Query) :
    Gives (answer engine c host query) (query.reply engine c host) := by
  cases query with
  | root => exact .pure _
  | absolute p => exact .pure _
  | excluded path => exact .bind (gives_isExcluded _ path) (.pure _)
  | files => exact .bind (gives_resolve c host) (.pure _)

/-- Every query of a sequence is answered as it would be on its own. -/
theorem gives_answerAll (engine : PatternEngine) (c : Config) (host : Host)
    (queries : List Query) :
    Gives (answerAll engine c host queries) (queries.map (Query.reply engine c host)) := by
  induction queries with
  | nil => exact .pure []
  | cons query queries ih => exact .bind (gives_answer query) (.bind ih (.pure _))

end Search

end SchemaLint
