import SchemaLint.Proofs.Path.Absolute

/-!
# Paths taken from the workspace

Making a path absolute has two sides: it works on spellings, so an absolute path stays as
it is, and what it gives is told by components. Appending to a path adds the components
of what is appended without its dots (`components_append_relative`), and so does taking a
path from a directory (`components_absoluteFrom`), whatever separators stand doubled or at
an end. From this follows where each path lies (`components_makeAbsolute`), and, since
nothing absolute is changed again, that a workspace made absolute serves as well as the
one it was made from (`Config.makeAbsolute_absolute`).
-/

namespace SchemaLint

namespace Path

variable {p q : Path}

/-! ## Components without dots -/

/-- The components of a path without a dot in front. -/
def undotted (p : Path) : List Component := p.components.filter (· ≠ .here)

theorem undotted_filterMap (all : List Text) :
    (all.filterMap component?).filter (· ≠ .here) = all.filterMap component? := by
  rw [List.filter_eq_self]
  intro c held
  obtain ⟨part, -, component⟩ := List.mem_filterMap.mp held
  unfold component? at component
  split at component
  · cases component
  split at component
  · cases component
  split at component
  · cases component
    rfl
  · cases component
    rfl

/-- The parts of a relative path are its components without a dot in front. -/
theorem filterMap_parts (relative : p.isAbsolute = false) :
    (parts p.text).filterMap component? = p.undotted := by
  obtain ⟨t⟩ := p
  have first : t.head? ≠ some '/' := of_decide_eq_false relative
  rw [undotted, components_relative first]
  obtain ⟨part, rest, whole⟩ := List.exists_cons_of_ne_nil (parts_ne_nil t)
  rw [whole]
  by_cases dot : part = ['.']
  · subst dot
    exact (undotted_filterMap rest).symm
  · have all : ofParts (part :: rest) = (part :: rest).filterMap component? := by
      rw [ofParts]
      intro others same
      exact dot (List.cons.inj same).1
    rw [all, undotted_filterMap]

/-- Appending a relative path adds its components without a dot in front. -/
theorem components_append_relative (ne : p.text ≠ []) (relative : q.isAbsolute = false) :
    (p.append q.text).components = p.components ++ q.undotted := by
  rw [components_append ne, filterMap_parts relative]

theorem components_append_text {c : Component} (ne : p.text ≠ []) (inner : c.IsInner) :
    (p.append c.text).components = p.components ++ [c] := by
  rcases inner with rfl | ⟨name, isName, rfl⟩
  · exact components_append ne _
  · exact components_append_name ne isName

theorem components_foldl_append_text {cs : List Component} (ne : p.text ≠ [])
    (inner : ∀ c ∈ cs, c.IsInner) :
    (cs.foldl (fun q c => q.append c.text) p).text ≠ [] ∧
      (cs.foldl (fun q c => q.append c.text) p).components = p.components ++ cs := by
  induction cs generalizing p with
  | nil => exact ⟨ne, (List.append_nil _).symm⟩
  | cons c cs ih =>
    rcases List.forall_mem_cons.mp inner with ⟨first, others⟩
    obtain ⟨some, components⟩ := ih (append_ne_nil ne c.text) others
    refine ⟨some, ?_⟩
    rw [List.foldl_cons, components, components_append_text ne first, List.append_assoc,
      List.singleton_append]

theorem isInner_of_mem_undotted (relative : p.isAbsolute = false) {c : Component}
    (held : c ∈ p.undotted) : c.IsInner := by
  rw [← filterMap_parts relative] at held
  exact isInner_of_mem_parts held

/-- A relative path taken from a directory lies below it as the path says; double dots
stay. -/
theorem components_absoluteFrom {directory : Path} (absolute : directory.isAbsolute = true)
    (relative : p.isAbsolute = false) :
    (absoluteFrom directory p).components = directory.components ++ p.undotted := by
  obtain ⟨some, components⟩ := components_foldl_append_text (ne_nil_of_isAbsolute absolute)
    fun c => isInner_of_mem_undotted relative (c := c)
  unfold undotted at some components ⊢
  unfold absoluteFrom
  dsimp only
  split
  · rw [components_append some, parts_nil]
    exact (List.append_nil _).trans components
  · exact components

end Path

namespace Config

variable {c : Config} {here root p q : Path} {e : SystemError}

/-! ## The workspace -/

/-- The workspace lies where it says, from the current directory if it is relative. -/
theorem components_workspaceRoot (hereAbsolute : here.isAbsolute = true)
    (rooted : c.workspaceRoot here = .ok root) :
    root.components =
      if c.workspace.isAbsolute then c.workspace.components
      else here.components ++ c.workspace.undotted := by
  unfold workspaceRoot at rooted
  split at rooted
  · next absolute =>
    cases rooted
    rw [if_pos absolute]
  next relative =>
  split at rooted
  · cases rooted
  · cases rooted
    rw [if_neg relative]
    exact Path.components_absoluteFrom hereAbsolute (by simpa using relative)

theorem workspaceRoot_of_isAbsolute (absolute : c.workspace.isAbsolute = true) (here : Path) :
    c.workspaceRoot here = .ok c.workspace := by
  rw [workspaceRoot, if_pos absolute]

theorem makeAbsolute_of_isAbsolute (absolute : p.isAbsolute = true) (c : Config) (here : Path) :
    c.makeAbsolute here p = .ok p := by
  rw [makeAbsolute, if_pos absolute]

/-! ## Making paths absolute -/

/-- The only path that cannot be made absolute is a relative one without a workspace. -/
theorem makeAbsolute_eq_error_iff (hereAbsolute : here.isAbsolute = true) :
    c.makeAbsolute here p = .error e ↔
      p.isAbsolute = false ∧ c.workspace.text = [] ∧ e = .emptyPath := by
  cases absolute : p.isAbsolute with
  | true =>
    rw [makeAbsolute_of_isAbsolute absolute]
    simp
  | false =>
    by_cases given : c.workspace.text = []
    · rw [makeAbsolute, if_neg (by simp [absolute]), workspaceRoot_of_empty given]
      simp [Except.map, given, eq_comm]
    · obtain ⟨root, rooted, -⟩ := exists_workspaceRoot given hereAbsolute
      rw [makeAbsolute_eq rooted]
      simp [given]

/-- What is made absolute is absolute, and a relative path lies below the workspace as it
says. -/
theorem components_makeAbsolute (hereAbsolute : here.isAbsolute = true)
    (relative : p.isAbsolute = false) (made : c.makeAbsolute here p = .ok q) :
    q.isAbsolute = true ∧
      ∃ root, c.workspaceRoot here = .ok root ∧ q.components = root.components ++ p.undotted := by
  cases rooted : c.workspaceRoot here with
  | error e =>
    rw [makeAbsolute, if_neg (by simp [relative]), rooted] at made
    cases made
  | ok root =>
    have absolute := isAbsolute_workspaceRoot hereAbsolute rooted
    rw [makeAbsolute_eq rooted] at made
    cases made
    refine ⟨Path.isAbsolute_join absolute p, root, rfl, ?_⟩
    rw [Path.join, if_neg (by simp [relative])]
    exact Path.components_append_relative (Path.ne_nil_of_isAbsolute absolute) relative

/-- From an absolute current directory every path can be made absolute but a relative one
without a workspace. What comes out is absolute and is not changed again; an absolute path
comes out as it went in, whatever the workspace is, and a relative one lies below the
workspace by its own components. The workspace lies below the current directory in the same
way, and a workspace that was made absolute gives itself and the same paths, wherever the
current directory is then. -/
theorem makeAbsolute_absolute (hereAbsolute : here.isAbsolute = true) (c : Config) :
    (∀ p e, c.makeAbsolute here p = .error e ↔
      p.isAbsolute = false ∧ c.workspace.text = [] ∧ e = .emptyPath) ∧
    (∀ p q, c.makeAbsolute here p = .ok q →
      q.isAbsolute = true ∧ c.makeAbsolute here q = .ok q ∧
      (p.isAbsolute = true → q = p) ∧
      (p.isAbsolute = false → ∃ root, c.workspaceRoot here = .ok root ∧
        root.components <+: q.components ∧ q.components = root.components ++ p.undotted)) ∧
    ∀ root, c.workspaceRoot here = .ok root →
      root.isAbsolute = true ∧
      (root.components = if c.workspace.isAbsolute then c.workspace.components
        else here.components ++ c.workspace.undotted) ∧
      ∀ (again : Config) (elsewhere : Path), again.workspace = root →
        again.workspaceRoot elsewhere = .ok root ∧
        ∀ p, again.makeAbsolute elsewhere p = c.makeAbsolute here p := by
  refine ⟨fun p e => makeAbsolute_eq_error_iff hereAbsolute, ?_, ?_⟩
  · intro p q made
    cases absolute : p.isAbsolute with
    | true =>
      rw [makeAbsolute_of_isAbsolute absolute] at made
      cases made
      exact ⟨absolute, makeAbsolute_of_isAbsolute absolute c here, fun _ => rfl, nofun⟩
    | false =>
      obtain ⟨isAbsolute, root, rooted, components⟩ :=
        components_makeAbsolute hereAbsolute absolute made
      refine ⟨isAbsolute, makeAbsolute_of_isAbsolute isAbsolute c here, nofun, fun _ => ?_⟩
      exact ⟨root, rooted, ⟨_, components.symm⟩, components⟩
  · intro root rooted
    have absolute := isAbsolute_workspaceRoot hereAbsolute rooted
    refine ⟨absolute, components_workspaceRoot hereAbsolute rooted, ?_⟩
    intro again elsewhere same
    subst same
    have stays := workspaceRoot_of_isAbsolute absolute elsewhere
    refine ⟨stays, fun p => ?_⟩
    rw [makeAbsolute_eq stays, makeAbsolute_eq rooted]

/-- A workspace with a dot in front, a double dot, doubled separators and one at the end, a
path of a dot alone and one with dots inside; and a workspace that is the empty path. -/
theorem makeAbsolute_absolute_dots :
    let here : Path := ⟨"/home/u"⟩
    let c : Config := ⟨{}, [], ⟨"./a//../b/"⟩, none⟩
    let without : Config := { c with workspace := ⟨[]⟩ }
    c.workspaceRoot here = .ok ⟨"/home/u/a/../b/"⟩ ∧
      c.makeAbsolute here ⟨"."⟩ = .ok ⟨"/home/u/a/../b/."⟩ ∧
      c.makeAbsolute here ⟨"/home/u/a/../b/."⟩ = .ok ⟨"/home/u/a/../b/."⟩ ∧
      (⟨"/home/u/a/../b/"⟩ : Path).components <+: (⟨"/home/u/a/../b/."⟩ : Path).components ∧
      (∀ p, ({ c with workspace := ⟨"/home/u/a/../b/"⟩ } : Config).makeAbsolute ⟨"/tmp"⟩ p =
        c.makeAbsolute here p) ∧
      without.makeAbsolute here ⟨"p"⟩ = .error .emptyPath ∧
      without.makeAbsolute here ⟨"/p//q/"⟩ = .ok ⟨"/p//q/"⟩ := by
  intro here c without
  have hereAbsolute : here.isAbsolute = true := by decide
  have rooted : c.workspaceRoot here = .ok ⟨"/home/u/a/../b/"⟩ := by rfl
  have made : c.makeAbsolute here ⟨"."⟩ = .ok ⟨"/home/u/a/../b/."⟩ := by rfl
  obtain ⟨-, results, roots⟩ := makeAbsolute_absolute hereAbsolute c
  obtain ⟨-, again, -, below⟩ := results _ _ made
  obtain ⟨root, found, begins, -⟩ := below (by decide)
  cases rooted.symm.trans found
  obtain ⟨-, -, serves⟩ := roots _ rooted
  obtain ⟨failures, others, -⟩ := makeAbsolute_absolute hereAbsolute without
  refine ⟨rooted, made, again, begins, (serves _ _ rfl).2, ?_, ?_⟩
  · exact (failures _ _).mpr ⟨by decide, rfl, rfl⟩
  · have absolute : without.makeAbsolute here ⟨"/p//q/"⟩ = .ok ⟨"/p//q/"⟩ := by rfl
    exact (others _ _ absolute).2.1

end Config

end SchemaLint
