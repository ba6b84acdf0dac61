import SchemaLint.Discovery.Resolver

/-!
# The log of a search

A search only ever adds to its log, and what it adds are events of the search
(`Event.isSearch`). `Notes x` says so of one step; it holds of the single events
and passes through sequencing, so it holds of every step of a search. No search
can therefore look like a part of the run that comes after it.
-/

namespace SchemaLint

/-- Whether an event is noted by the search for schema files. -/
def Event.isSearch : Event → Bool
  | .notAPattern _ _ | .excludedBy _ _ | .skippedExcluded _ | .skippedNonDirectory _ | .scanning _
  | .foundNone | .foundSome _ | .foundFile _ | .discovered _ => true
  | _ => false

namespace Search

variable {engine : PatternEngine} {α β : Type}

/-- A step that adds events of the search to the log, and nothing else. -/
def Notes (x : StateM (Search engine) α) : Prop :=
  ∀ s, ∃ events, (x.run s).2.log = s.log ++ events ∧ ∀ e ∈ events, e.isSearch = true

namespace Notes

theorem pure (a : α) : Notes (Pure.pure a : StateM (Search engine) α) :=
  fun _ => ⟨[], (List.append_nil _).symm, fun _ held => nomatch held⟩

theorem bind {x : StateM (Search engine) α} {f : α → StateM (Search engine) β} (first : Notes x)
    (each : ∀ a, Notes (f a)) : Notes (x >>= f) := by
  intro s
  obtain ⟨before, log, noted⟩ := first s
  obtain ⟨after, rest, noted'⟩ := each (x.run s).1 (x.run s).2
  refine ⟨before ++ after, ?_, fun e held => (List.mem_append.mp held).elim (noted e) (noted' e)⟩
  show ((f (x.run s).1).run (x.run s).2).2.log = _
  rw [rest, log, List.append_assoc]

theorem note {e : Event} (search : e.isSearch = true) :
    Notes (Search.note e : StateM (Search engine) Unit) :=
  fun _ => ⟨[e], rfl, by simpa using search⟩

theorem noteAll {events : List Event} (search : ∀ e ∈ events, e.isSearch = true) :
    Notes (Search.noteAll events : StateM (Search engine) Unit) :=
  fun _ => ⟨events, rfl, search⟩

end Notes

/-! ## The steps of a search -/

/-- An entry is compiled once, and a warning noted then if it is not a pattern. -/
theorem run_pattern? (entry : Text) (s : Search engine) :
    (pattern? engine entry).run s =
      match s.patterns.lookup entry with
      | some known => (known, s)
      | none =>
        match engine.compile entry with
        | .ok p => (some p, { s with patterns := (entry, some p) :: s.patterns })
        | .error reason =>
          (none,
            { patterns := (entry, none) :: s.patterns
              log := s.log ++ [.notAPattern entry reason] }) := by
  cases known : s.patterns.lookup entry with
  | some found =>
    simp only [pattern?, StateT.run_bind, StateT.run_get, pure_bind, known]
    rfl
  | none =>
    simp only [pattern?, StateT.run_bind, StateT.run_get, pure_bind, known]
    cases engine.compile entry with
    | ok p => rfl
    | error reason => rfl

theorem notes_pattern? (entry : Text) : Notes (pattern? engine entry) := by
  intro s
  rw [run_pattern?]
  split
  · exact ⟨[], (List.append_nil _).symm, fun _ held => nomatch held⟩
  split
  · exact ⟨[], (List.append_nil _).symm, fun _ held => nomatch held⟩
  · exact ⟨_, rfl, List.forall_mem_singleton.mpr rfl⟩

theorem notes_matchesEntry (path entry : Text) : Notes (matchesEntry engine path entry) := by
  unfold matchesEntry
  split
  · exact .pure true
  refine .bind (notes_pattern? entry) fun found => ?_
  cases found with
  | none => exact .pure false
  | some p =>
    dsimp only
    split
    · exact .bind (.note rfl) fun _ => .pure true
    · exact .pure false

theorem notes_matchesAny (path : Text) (entries : List Text) : Notes (matchesAny engine path entries) := by
  induction entries with
  | nil => exact .pure false
  | cons entry entries ih =>
    refine .bind (notes_matchesEntry path entry) fun matched => ?_
    split
    · exact .pure true
    · exact ih

theorem notes_isExcluded (entries : List Text) (path : Text) : Notes (isExcluded engine entries path) := by
  unfold isExcluded
  split
  · exact .pure true
  · exact notes_matchesAny path entries

theorem isSearch_of_mem_foundEvents {files : List Path} {e : Event}
    (held : e ∈ foundEvents files) : e.isSearch = true := by
  unfold foundEvents at held
  split at held
  · cases List.mem_singleton.mp held
    rfl
  · rcases List.mem_cons.mp held with rfl | held
    · rfl
    · obtain ⟨file, -, rfl⟩ := List.mem_map.mp held
      rfl

theorem notes_scanPaths (c : Config) (host : Host) (paths : List Text) :
    Notes (scanPaths engine c host paths) := by
  induction paths with
  | nil => exact .pure _
  | cons path paths ih =>
    refine .bind (notes_isExcluded c.excludePaths path) fun isExcluded => ?_
    split
    · exact .bind (.note rfl) fun _ => ih
    split
    · exact .pure _
    · split
      · exact .bind (.note rfl) fun _ => ih
      · refine .bind (.noteAll fun e held => ?_) fun _ => .bind ih fun _ => .pure _
        rcases List.mem_cons.mp held with rfl | held
        · rfl
        · exact isSearch_of_mem_foundEvents held

theorem notes_resolve (c : Config) (host : Host) : Notes (resolve engine c host) := by
  unfold resolve
  split
  · exact .pure _
  refine .bind (notes_scanPaths c host c.includePaths) fun found => ?_
  cases found with
  | error e => exact .pure _
  | ok found => exact .bind (.note rfl) fun _ => .pure _

/-- What a search for schema files has noted are events of the search. -/
theorem isSearch_of_mem_log {c : Config} {host : Host} {e : Event}
    (held : e ∈ ((resolve engine c host).run {}).2.log) : e.isSearch = true := by
  obtain ⟨events, log, search⟩ := notes_resolve c host {}
  rw [log, List.nil_append] at held
  exact search e held

end Search

end SchemaLint
