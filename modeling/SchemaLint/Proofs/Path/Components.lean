import SchemaLint.FileTree.Basic

/-!
# The components of joined paths

Joining works on the spelling, while paths are compared by their components. Past
the first part a component depends on its part alone, so a text behind a separator
adds the components of its own parts, wherever it is appended
(`components_append`). A name adds itself, a list of names adds its names, and a
relative path that goes through names only adds its components.
-/

namespace SchemaLint.Path

open FileTree (IsName)

variable {p q : Path} {t u : Text}

/-! ## Parts -/

theorem parts_nil : parts [] = [[]] := List.splitOnP_nil

theorem parts_ne_nil (t : Text) : parts t ≠ [] := List.splitOnP_ne_nil _ t

/-- A separator divides the parts on its two sides. -/
theorem parts_append_cons (t u : Text) : parts (t ++ '/' :: u) = parts t ++ parts u :=
  List.splitOnP_append_cons t u (by decide)

theorem parts_of_not_mem (plain : '/' ∉ t) : parts t = [t] := by
  refine List.splitOnP_eq_singleton fun c held => ?_
  simp only [beq_eq_false_iff_ne]
  rintro rfl
  exact plain held

/-- The components of the parts of a path that does not start at the root. A dot
counts if it comes first. -/
def ofParts : List Text → List Component
  | ['.'] :: rest => .here :: rest.filterMap component?
  | all => all.filterMap component?

theorem ofParts_append {first : List Text} (ne : first ≠ []) (rest : List Text) :
    ofParts (first ++ rest) = ofParts first ++ rest.filterMap component? := by
  obtain ⟨part, others, rfl⟩ := List.exists_cons_of_ne_nil ne
  by_cases dot : part = ['.']
  · subst dot
    simp [ofParts]
  · rw [List.cons_append, ofParts, ofParts, ← List.cons_append, List.filterMap_append]
    all_goals simpa using dot

theorem components_root (t : Text) :
    components ⟨'/' :: t⟩ = .root :: (parts t).filterMap component? := rfl

theorem components_relative (relative : t.head? ≠ some '/') : components ⟨t⟩ = ofParts (parts t) := by
  cases t with
  | nil => rfl
  | cons c t =>
    have first : c ≠ '/' := by simpa using relative
    unfold components ofParts
    split
    · next empty => cases empty
    · next absolute =>
      cases absolute
      exact (first rfl).elim
    · rfl

/-! ## Joining -/

/-- What follows a separator adds the components of its parts. -/
theorem components_append_cons (ne : t ≠ []) (u : Text) :
    components ⟨t ++ '/' :: u⟩ = components ⟨t⟩ ++ (parts u).filterMap component? := by
  obtain ⟨c, t, rfl⟩ := List.exists_cons_of_ne_nil ne
  by_cases absolute : c = '/'
  · subst absolute
    rw [List.cons_append, components_root, components_root, parts_append_cons, List.filterMap_append,
      List.cons_append]
  · have relative (rest : Text) : (c :: rest).head? ≠ some '/' := by simpa using absolute
    rw [List.cons_append, components_relative (relative _), components_relative (relative _),
      ← List.cons_append, parts_append_cons, ofParts_append (parts_ne_nil _)]

/-- A text that is appended adds the components of its parts. -/
theorem components_append (ne : p.text ≠ []) (u : Text) :
    (p.append u).components = p.components ++ (parts u).filterMap component? := by
  obtain ⟨t⟩ := p
  unfold append
  split
  · next ending =>
    -- The separator is there already; without it the path would be `t` or the root.
    have last : t.getLast? = some '/' := by simpa [ne] using ending
    obtain ⟨t, rfl⟩ := List.getLast?_eq_some_iff.mp last
    rw [List.append_assoc, List.singleton_append]
    by_cases empty : t = []
    · subst empty
      rfl
    · rw [components_append_cons empty, components_append_cons empty, parts_nil]
      simp [component?]
  · exact components_append_cons ne u

theorem append_ne_nil (ne : p.text ≠ []) (u : Text) : (p.append u).text ≠ [] := by
  unfold append
  split <;> simp [ne]

theorem component?_of_isName (name : IsName t) : component? t = some (.name t) := by
  obtain ⟨ne, notHere, notUp, -⟩ := name
  rw [component?, if_neg ne, if_neg notHere, if_neg notUp]

/-- A name that is appended is one more component. -/
theorem components_append_name (ne : p.text ≠ []) (name : IsName t) :
    (p.append t).components = p.components ++ [.name t] := by
  rw [components_append ne, parts_of_not_mem name.2.2.2, List.filterMap_cons,
    component?_of_isName name, List.filterMap_nil]

theorem components_foldl_append {names : List Text} (ne : p.text ≠ [])
    (each : ∀ name ∈ names, IsName name) :
    (names.foldl append p).components = p.components ++ names.map .name := by
  induction names generalizing p with
  | nil => simp
  | cons name names ih =>
    obtain ⟨first, rest⟩ := List.forall_mem_cons.mp each
    rw [List.foldl_cons, ih (append_ne_nil ne name) rest, components_append_name ne first,
      List.append_assoc, List.singleton_append, List.map_cons]

/-- A path through names only is relative, and no part of it is a leading dot. -/
theorem components_of_names {names : List Text} (normal : q.components = names.map .name) :
    q.isAbsolute = false ∧ (parts q.text).filterMap component? = q.components := by
  obtain ⟨t⟩ := q
  have relative : t.head? ≠ some '/' := by
    intro first
    obtain ⟨rest, rfl⟩ := List.head?_eq_some_iff.mp first
    rw [components_root] at normal
    cases names <;> cases normal
  refine ⟨by simpa [isAbsolute] using relative, ?_⟩
  rw [components_relative relative] at normal ⊢
  obtain ⟨part, rest, whole⟩ := List.exists_cons_of_ne_nil (parts_ne_nil t)
  rw [whole] at normal ⊢
  by_cases dot : part = ['.']
  · subst dot
    cases names <;> cases normal
  · simp [ofParts, dot]

/-- A path through names only, taken from another, adds its names. -/
theorem components_join {names : List Text} (ne : p.text ≠ [])
    (normal : q.components = names.map .name) :
    (p.join q).components = p.components ++ names.map .name := by
  obtain ⟨relative, own⟩ := components_of_names normal
  rw [join, if_neg (by simp [relative]), components_append ne, own, normal]

end SchemaLint.Path
