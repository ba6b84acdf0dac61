import SchemaLint.FileTree.Launch

/-!
# Which program is started

A name without a separator starts the program of the first directory of the search path
that has one of this name: it is found there, and the directories before have nothing
under the name, or what may not be run (`Host.lookUp_eq_ok_iff`). What comes after plays
no part.
-/

namespace SchemaLint.Host

variable {host : Host} {program : Text} {finished : FinishedProcess}

/-- A directory that has nothing to run under a name. -/
def PassesOver (host : Host) (program : Text) (dir : Path) : Prop :=
  ∃ e, host.execute (dir.append program) = .error e ∧ e.isPassedOver = true

theorem lookUp_of_passesOver {before : List Path} {dir : Path}
    (passed : ∀ other ∈ before, host.PassesOver program other)
    (found : host.execute (dir.append program) = .ok finished) (failure : SystemError)
    (after : List Path) :
    host.lookUp program failure (before ++ dir :: after) = .ok finished := by
  induction before generalizing failure with
  | nil => rw [List.nil_append, lookUp, found]
  | cons other before ih =>
    obtain ⟨⟨e, refused, skipped⟩, passed⟩ := List.forall_mem_cons.mp passed
    rw [List.cons_append, lookUp, refused]
    dsimp only
    rw [if_pos skipped]
    exact ih passed _

/-- The program that is started is that of the first directory which has one. -/
theorem lookUp_eq_ok_iff {failure : SystemError} {dirs : List Path} :
    host.lookUp program failure dirs = .ok finished ↔
      ∃ before dir after, dirs = before ++ dir :: after ∧
        (∀ other ∈ before, host.PassesOver program other) ∧
        host.execute (dir.append program) = .ok finished := by
  constructor
  · intro started
    induction dirs generalizing failure with
    | nil => cases started
    | cons first rest ih =>
      rw [lookUp] at started
      cases tried : host.execute (first.append program) with
      | ok result =>
        rw [tried] at started
        cases started
        exact ⟨[], first, rest, rfl, nofun, tried⟩
      | error e =>
        rw [tried] at started
        dsimp only at started
        split at started
        · next skipped =>
          obtain ⟨before, dir, after, rfl, passed, found⟩ := ih started
          have passed := List.forall_mem_cons.mpr ⟨⟨e, tried, skipped⟩, passed⟩
          exact ⟨first :: before, dir, after, rfl, passed, found⟩
        · cases started
  · rintro ⟨before, dir, after, rfl, passed, found⟩
    exact lookUp_of_passesOver passed found failure after

end SchemaLint.Host
