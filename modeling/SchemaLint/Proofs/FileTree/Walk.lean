import SchemaLint.FileTree.SchemaFiles

/-!
# The order of a walk

A walk goes through the entries of a directory in the order of their names and
lists what each contributes, every list of names beginning with the name of the
entry. So the walk as a whole is in the lexicographic order of lists of names, and
strictly so in a well-formed tree (`pairwise_schemaFiles`): no file is listed
twice, and a file stands before another exactly if its names sort before.
-/

namespace SchemaLint.FileTree

instance (n : Text) : Decidable (IsName n) := inferInstanceAs (Decidable (_ ∧ _))

/-! ## The order of entries -/

section

variable {α : Type}

theorem nameOrder_iff {a b : Text × α} : nameOrder a b = true ↔ ¬ b.1 < a.1 := by
  have code (x y : Char) : decide (x.toNat < y.toNat) = true ↔ x < y := by
    rw [decide_eq_true_eq, Char.lt_def, UInt32.lt_iff_toNat_lt, Char.toNat, Char.toNat]
  have order : (fun x y : Char => decide (x.toNat < y.toNat) = true) = (· < ·) := by
    funext x y
    exact propext (code x y)
  rw [nameOrder, Bool.not_eq_true', ← Bool.not_eq_true, List.lex_eq_true_iff_lex, order]
  exact Iff.rfl

theorem nameOrder_trans (a b c : Text × α) (first : nameOrder a b = true)
    (second : nameOrder b c = true) : nameOrder a c = true := by
  rw [nameOrder_iff, List.not_lt] at *
  exact List.le_trans first second

theorem nameOrder_total (a b : Text × α) : (nameOrder a b || nameOrder b a) = true := by
  rw [Bool.or_eq_true, nameOrder_iff, nameOrder_iff, List.not_lt, List.not_lt]
  exact List.le_total a.1 b.1

/-- Entries with distinct names are sorted strictly. -/
theorem pairwise_mergeSort_nameOrder {entries : List (Text × α)}
    (distinct : (entries.map (·.1)).Nodup) :
    (entries.mergeSort nameOrder).Pairwise fun a b => a.1 < b.1 := by
  have sorted := List.pairwise_mergeSort nameOrder_trans nameOrder_total entries
  have apart : (entries.mergeSort nameOrder).Pairwise fun a b => a.1 ≠ b.1 := by
    rw [← List.pairwise_map (f := fun entry : Text × α => entry.1) (R := (· ≠ ·))]
    exact ((List.mergeSort_perm entries nameOrder).map _).nodup_iff.mpr distinct
  refine (sorted.and apart).imp fun {a b} ordered => ?_
  obtain ⟨below, differ⟩ := ordered
  refine Classical.byContradiction fun notLess => differ ?_
  exact List.le_antisymm (List.not_lt.mp (nameOrder_iff.mp below)) (List.not_lt.mp notLess)

end

/-! ## What an entry contributes -/

/-- The schema files that an entry contributes. -/
def batch (name : Text) : FileTree → List (List Text)
  | .file _ _ => if isSchemaName name then [[name]] else []
  | .link _ => []
  | .dir entries => (schemaFiles (.dir entries)).map (name :: ·)

theorem batches_eq_map (entries : Entries) :
    batches entries = entries.map fun entry => (entry.1, batch entry.1 entry.2) := by
  induction entries with
  | nil => rw [batches, List.map_nil]
  | cons entry entries ih =>
    obtain ⟨name, t⟩ := entry
    cases t <;> rw [batches, ih, List.map_cons, batch]

theorem schemaFiles_dir (entries : Entries) :
    schemaFiles (.dir entries) =
      ((entries.map fun entry => (entry.1, batch entry.1 entry.2)).mergeSort nameOrder).flatMap
        (·.2) := by
  rw [schemaFiles, batches_eq_map]

theorem mem_schemaFiles_dir {entries : Entries} {names : List Text} :
    names ∈ schemaFiles (.dir entries) ↔ ∃ entry ∈ entries, names ∈ batch entry.1 entry.2 := by
  rw [schemaFiles_dir, List.mem_flatMap]
  constructor
  · rintro ⟨contribution, held, contributed⟩
    obtain ⟨entry, present, rfl⟩ := List.mem_map.mp (List.mem_mergeSort.mp held)
    exact ⟨entry, present, contributed⟩
  · rintro ⟨entry, present, contributed⟩
    exact ⟨_, List.mem_mergeSort.mpr (List.mem_map.mpr ⟨entry, present, rfl⟩), contributed⟩

/-- Every list that an entry contributes begins with its name, and goes on below
it. -/
theorem mem_batch {name : Text} {t : FileTree} {names : List Text} (held : names ∈ batch name t) :
    ∃ rest, names = name :: rest ∧ (rest = [] ∨ rest ∈ t.schemaFiles) := by
  cases t with
  | file content program =>
    rw [batch] at held
    split at held
    · exact ⟨[], List.mem_singleton.mp held, Or.inl rfl⟩
    · cases held
  | link target => cases held
  | dir entries =>
    rw [batch] at held
    obtain ⟨rest, below, rfl⟩ := List.mem_map.mp held
    exact ⟨rest, rfl, Or.inr below⟩

/-! ## The walk -/

/-- A file is reached through names. -/
theorem isName_of_mem_schemaFiles {t : FileTree} (wellFormed : t.WellFormed) {names : List Text}
    (held : names ∈ t.schemaFiles) : ∀ name ∈ names, IsName name := by
  induction wellFormed generalizing names with
  | file => cases held
  | link => cases held
  | dir _ named _ ih =>
    obtain ⟨entry, present, contributed⟩ := mem_schemaFiles_dir.mp held
    obtain ⟨rest, rfl, below⟩ := mem_batch contributed
    refine List.forall_mem_cons.mpr ⟨named entry present, ?_⟩
    rcases below with rfl | below
    · exact fun _ none => nomatch none
    · exact ih entry present below

theorem pairwise_batch {name : Text} {t : FileTree} (below : t.schemaFiles.Pairwise (· < ·)) :
    (batch name t).Pairwise (· < ·) := by
  cases t with
  | file content program =>
    rw [batch]
    split <;> simp
  | link target => exact .nil
  | dir entries =>
    rw [batch, List.pairwise_map]
    exact below.imp fun ordered => List.cons_lt_cons_iff.mpr (Or.inr ⟨rfl, ordered⟩)

/-- A walk of a well-formed tree is in strictly increasing order. -/
theorem pairwise_schemaFiles {t : FileTree} (wellFormed : t.WellFormed) :
    t.schemaFiles.Pairwise (· < ·) := by
  induction wellFormed with
  | file => exact .nil
  | link => exact .nil
  | @dir entries distinct _ _ ih =>
    rw [schemaFiles_dir, List.pairwise_flatMap]
    constructor
    · intro contribution held
      obtain ⟨entry, present, rfl⟩ := List.mem_map.mp (List.mem_mergeSort.mp held)
      exact pairwise_batch (ih entry present)
    · have names : ((entries.map fun entry => (entry.1, batch entry.1 entry.2)).map (·.1)).Nodup := by
        simpa [List.map_map, Function.comp_def] using distinct
      have sorted := pairwise_mergeSort_nameOrder names
      refine sorted.imp_of_mem fun {a b} inA inB ordered x inX y inY => ?_
      -- Lists of different entries are decided by their first names.
      obtain ⟨entryA, -, rfl⟩ := List.mem_map.mp (List.mem_mergeSort.mp inA)
      obtain ⟨entryB, -, rfl⟩ := List.mem_map.mp (List.mem_mergeSort.mp inB)
      obtain ⟨restA, rfl, -⟩ := mem_batch inX
      obtain ⟨restB, rfl, -⟩ := mem_batch inY
      exact List.cons_lt_cons_iff.mpr (Or.inl ordered)

end SchemaLint.FileTree
