import SchemaLint.Discovery.Resolver
import SchemaLint.Proofs.Path.Components
import SchemaLint.Proofs.Text.Blank

/-!
# Absolute paths

A path stays absolute whatever is appended to it, so from an absolute current
directory all paths of a search are absolute: the workspace (`isAbsolute_workspaceRoot`),
which is missing only when it was given as the empty path, and what is joined to it.
The components of an absolute path are the root and then names and double dots; a
dot is none of them (`components_of_isAbsolute`).
-/

namespace SchemaLint

namespace Path

variable {p q : Path}

theorem isAbsolute_iff : p.isAbsolute = true ↔ ∃ t, p = ⟨'/' :: t⟩ := by
  obtain ⟨text⟩ := p
  rw [isAbsolute, decide_eq_true_eq, List.head?_eq_some_iff]
  exact exists_congr fun t => by rw [mk.injEq]

theorem ne_nil_of_isAbsolute (absolute : p.isAbsolute = true) : p.text ≠ [] := by
  obtain ⟨t, rfl⟩ := isAbsolute_iff.mp absolute
  exact List.cons_ne_nil _ _

theorem isAbsolute_append (absolute : p.isAbsolute = true) (t : Text) :
    (p.append t).isAbsolute = true := by
  obtain ⟨rest, rfl⟩ := isAbsolute_iff.mp absolute
  unfold append
  split
  · rfl
  · rfl

theorem isAbsolute_foldl_append (absolute : p.isAbsolute = true) (ts : List Text) :
    (ts.foldl append p).isAbsolute = true := by
  induction ts generalizing p with
  | nil => exact absolute
  | cons t ts ih => exact ih (isAbsolute_append absolute t)

theorem isAbsolute_join (absolute : p.isAbsolute = true) (q : Path) :
    (p.join q).isAbsolute = true := by
  unfold join
  split
  · assumption
  · exact isAbsolute_append absolute q.text

theorem isAbsolute_absoluteFrom {directory : Path} (absolute : directory.isAbsolute = true)
    (p : Path) : (absoluteFrom directory p).isAbsolute = true := by
  have joined : ((p.components.filter (· ≠ .here)).foldl (fun q c => q.append c.text)
      directory).isAbsolute = true := by
    rw [← List.foldl_map]
    exact isAbsolute_foldl_append absolute _
  unfold absoluteFrom
  dsimp only
  split
  · exact isAbsolute_append joined []
  · exact joined

/-! ## Components -/

/-- The parts of a text hold no separator. -/
theorem not_mem_of_mem_parts {t part : Text} (held : part ∈ parts t) : '/' ∉ part := by
  intro inside
  have := (Text.mem_of_mem_splitOnP held '/' inside).2
  cases this

/-- What an absolute path may have below the root: a double dot or a name. -/
def Component.IsInner (c : Component) : Prop := c = .up ∨ ∃ name, FileTree.IsName name ∧ c = .name name

theorem isInner_of_mem_parts {t : Text} {c : Component}
    (held : c ∈ (parts t).filterMap component?) : c.IsInner := by
  obtain ⟨part, present, component⟩ := List.mem_filterMap.mp held
  unfold component? at component
  split at component
  · cases component
  next ne =>
  split at component
  · cases component
  next notHere =>
  split at component
  · cases component
    exact Or.inl rfl
  next notUp =>
  cases component
  exact Or.inr ⟨part, ⟨ne, notHere, notUp, not_mem_of_mem_parts present⟩, rfl⟩

/-- Below the root of an absolute path are names and double dots. -/
theorem components_of_isAbsolute (absolute : p.isAbsolute = true) :
    ∃ below, p.components = .root :: below ∧ ∀ c ∈ below, c.IsInner := by
  obtain ⟨t, rfl⟩ := isAbsolute_iff.mp absolute
  exact ⟨_, components_root t, fun c => isInner_of_mem_parts⟩

theorem mem_ofParts {all : List Text} {c : Component} (held : c ∈ ofParts all) :
    c = .here ∨ c ∈ all.filterMap component? := by
  unfold ofParts at held
  split at held
  · exact (List.mem_cons.mp held).imp_right fun later => later
  · exact Or.inr held

/-- Only an absolute path has the root among its components. -/
theorem isAbsolute_of_root_mem (root : .root ∈ p.components) : p.isAbsolute = true := by
  obtain ⟨t⟩ := p
  by_cases first : t.head? = some '/'
  · exact decide_eq_true first
  · rw [components_relative first] at root
    rcases mem_ofParts root with here | below
    · cases here
    · rcases isInner_of_mem_parts below with up | ⟨name, -, named⟩
      · cases up
      · cases named

theorem eq_of_component? {part n : Text} (named : component? part = some (.name n)) : part = n := by
  unfold component? at named
  split at named
  · cases named
  split at named
  · cases named
  split at named
  · cases named
  · cases named
    rfl

/-- A name among the components of a path stands in its spelling. -/
theorem isName_of_mem_components {n : Text} (held : .name n ∈ p.components) :
    FileTree.IsName n ∧ n <:+: p.text := by
  obtain ⟨t⟩ := p
  have inside {u : Text} (held : .name n ∈ (parts u).filterMap component?) :
      FileTree.IsName n ∧ n <:+: u := by
    rcases isInner_of_mem_parts held with up | ⟨name, isName, same⟩
    · cases up
    · cases same
      obtain ⟨part, present, named⟩ := List.mem_filterMap.mp held
      cases eq_of_component? named
      exact ⟨isName, Text.infix_of_mem_splitOnP present⟩
  by_cases absolute : t.head? = some '/'
  · obtain ⟨u, rfl⟩ := List.head?_eq_some_iff.mp absolute
    rw [components_root, List.mem_cons] at held
    rcases held with root | below
    · cases root
    · obtain ⟨isName, occurs⟩ := inside below
      exact ⟨isName, occurs.trans (List.suffix_cons '/' u).isInfix⟩
  · rw [components_relative absolute] at held
    rcases mem_ofParts held with here | below
    · cases here
    · exact inside below

/-- Only the empty path has no components. -/
theorem components_ne_nil (some : p.text ≠ []) : p.components ≠ [] := by
  obtain ⟨t⟩ := p
  obtain ⟨c, u, rfl⟩ := List.exists_cons_of_ne_nil some
  by_cases absolute : c = '/'
  · rw [absolute, components_root]
    exact List.cons_ne_nil _ _
  -- The first part begins with the first character, so it is a component.
  obtain ⟨first, rest, parts_eq⟩ := List.exists_cons_of_ne_nil (parts_ne_nil u)
  have split : parts (c :: u) = (c :: first) :: rest := by
    rw [parts, List.splitOnP_cons_eq_if_modifyHead, if_neg (by simpa using absolute)]
    exact congrArg (List.modifyHead (c :: ·)) parts_eq
  rw [components_relative (by simpa using absolute), split]
  by_cases dot : c :: first = ['.']
  · rw [dot, ofParts]
    exact List.cons_ne_nil _ _
  · rw [ofParts, List.filterMap_cons]
    · cases component : component? (c :: first) with
      | none =>
        simp only [component?, List.cons_ne_nil, if_false, if_neg dot] at component
        split at component <;> cases component
      | some d => exact List.cons_ne_nil _ _
    · exact fun rest' same => dot (List.cons.inj same).1

end Path

namespace Config

variable {c : Config} {here : Path}

/-- An empty workspace cannot be made absolute. -/
theorem workspaceRoot_of_empty (empty : c.workspace.text = []) :
    c.workspaceRoot here = .error .emptyPath := by
  have relative : c.workspace.isAbsolute = false := by
    rw [Path.isAbsolute, empty]
    rfl
  rw [workspaceRoot, if_neg (by simp [relative]), if_pos empty]

/-- From an absolute current directory any other workspace can. -/
theorem exists_workspaceRoot (given : c.workspace.text ≠ []) (here_absolute : here.isAbsolute = true) :
    ∃ root, c.workspaceRoot here = .ok root ∧ root.isAbsolute = true := by
  unfold workspaceRoot
  by_cases absolute : c.workspace.isAbsolute = true
  · rw [if_pos absolute]
    exact ⟨_, rfl, absolute⟩
  · rw [if_neg absolute, if_neg given]
    exact ⟨_, rfl, Path.isAbsolute_absoluteFrom here_absolute _⟩

theorem isAbsolute_workspaceRoot {root : Path} (here_absolute : here.isAbsolute = true)
    (rooted : c.workspaceRoot here = .ok root) : root.isAbsolute = true := by
  by_cases empty : c.workspace.text = []
  · rw [workspaceRoot_of_empty empty] at rooted
    cases rooted
  · obtain ⟨other, found, absolute⟩ := exists_workspaceRoot empty here_absolute
    rw [rooted] at found
    cases found
    exact absolute

/-- A path is taken from the workspace. -/
theorem makeAbsolute_eq {root : Path} (rooted : c.workspaceRoot here = .ok root) (p : Path) :
    c.makeAbsolute here p = .ok (root.join p) := by
  unfold makeAbsolute Path.join
  rw [rooted]
  split
  · rfl
  · rfl

end Config

end SchemaLint
