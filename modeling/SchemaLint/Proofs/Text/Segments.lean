import SchemaLint.Proofs.Text.Replace
import SchemaLint.Proofs.Text.Unique

/-!
# Replacing a word between marks

A mark divides a text into segments. The occurrences of a word between marks are the
segments with a neighbour on both sides that are the word, and replacing one joins its
neighbours around the new text. This takes both marks, so the neighbour on the right
cannot be the next occurrence (`Text.merge`). If the new text has no mark of its own,
that is all that replacing does (`Text.replaceAll_join`).
-/

namespace SchemaLint.Text

variable {mark : Char} {word value old new : Text}

/-- What comes before the first character of the old text stays. -/
theorem replaceFrom_append_of_not_mem {a : Text} (absent : mark ∉ a) (t : Text) :
    replaceFrom (mark :: old) new 0 (a ++ t) = a ++ replaceFrom (mark :: old) new 0 t := by
  induction a with
  | nil => rfl
  | cons c a ih =>
    rw [List.mem_cons, not_or] at absent
    have differs : ¬ (mark :: old).isPrefixOf (c :: (a ++ t)) = true := by
      rw [List.isPrefixOf_iff_prefix, List.cons_prefix_cons]
      exact fun begins => absent.1 begins.1
    rw [List.cons_append, replaceFrom, if_neg differs, ih absent.2, List.cons_append]

/-! ## Segments -/

/-- The segments of a text in which a word between marks is replaced. -/
def merge (word value : Text) : List Text → List Text
  | left :: inner :: right :: rest =>
    if inner = word then merge word value ((left ++ value ++ right) :: rest)
    else left :: merge word value (inner :: right :: rest)
  | segments => segments
termination_by segments => segments.length

theorem merge_singleton (t : Text) : merge word value [t] = [t] := by
  rw [merge]
  exact fun _ _ _ _ same => by cases same

theorem merge_pair (t u : Text) : merge word value [t, u] = [t, u] := by
  rw [merge]
  exact fun _ _ _ _ same => by cases same

theorem merge_of_ne {left inner : Text} {rest : List Text} (differs : inner ≠ word)
    (some : rest ≠ []) :
    merge word value (left :: inner :: rest) = left :: merge word value (inner :: rest) := by
  obtain ⟨right, rest, rfl⟩ := List.exists_cons_of_ne_nil some
  rw [merge, if_neg differs]

theorem merge_ne_nil {segments : List Text} (some : segments ≠ []) :
    merge word value segments ≠ [] := by
  induction segments using merge.induct word value with
  | case1 left right rest ih =>
    rw [merge, if_pos rfl]
    exact ih (List.cons_ne_nil _ _)
  | case2 left inner right rest differs ih =>
    rw [merge, if_neg differs]
    exact List.cons_ne_nil _ _
  | case3 segments short =>
    rw [merge]
    · exact some
    · exact short

/-- No mark comes into the segments. -/
theorem not_mem_merge (noValue : mark ∉ value) {segments : List Text}
    (plain : ∀ segment ∈ segments, mark ∉ segment) :
    ∀ segment ∈ merge word value segments, mark ∉ segment := by
  induction segments using merge.induct word value with
  | case1 left right rest ih =>
    rw [merge, if_pos rfl]
    simp only [List.forall_mem_cons] at plain
    refine ih (List.forall_mem_cons.mpr ⟨?_, plain.2.2.2⟩)
    simp [plain.1, plain.2.2.1, noValue]
  | case2 left inner right rest differs ih =>
    rw [merge, if_neg differs]
    obtain ⟨first, others⟩ := List.forall_mem_cons.mp plain
    exact List.forall_mem_cons.mpr ⟨first, ih others⟩
  | case3 segments short =>
    rw [merge]
    · exact plain
    · exact short

theorem join_cons {sep t : Text} {rest : List Text} (some : rest ≠ []) :
    join sep (t :: rest) = t ++ sep ++ join sep rest := by
  obtain ⟨u, rest, rfl⟩ := List.exists_cons_of_ne_nil some
  rfl

/-- Replacing a word between marks merges the segments between marks. -/
theorem replaceAll_join (noWord : mark ∉ word) (noValue : mark ∉ value) {segments : List Text}
    (plain : ∀ segment ∈ segments, mark ∉ segment) :
    replaceAll (mark :: (word ++ [mark])) value (join [mark] segments) =
      join [mark] (merge word value segments) := by
  rw [replaceAll, if_neg (by simp)]
  induction segments using merge.induct word value with
  | case1 left right rest ih =>
    simp only [List.forall_mem_cons] at plain
    obtain ⟨noLeft, -, noRight, others⟩ := plain
    have merged : mark ∉ left ++ value ++ right := by simp [noLeft, noValue, noRight]
    have around : join [mark] (left :: word :: right :: rest) =
        left ++ (mark :: (word ++ [mark]) ++ join [mark] (right :: rest)) := by
      simp [join]
    have joined : join [mark] ((left ++ value ++ right) :: rest) =
        left ++ value ++ join [mark] (right :: rest) := by
      cases rest with
      | nil => rfl
      | cons next rest => simp [join]
    rw [merge, if_pos rfl, ← ih (List.forall_mem_cons.mpr ⟨merged, others⟩), around, joined,
      replaceFrom_append_of_not_mem noLeft, replaceFrom_old_append (by simp),
      replaceFrom_append_of_not_mem (by simp [noLeft, noValue]), List.append_assoc]
  | case2 left inner right rest differs ih =>
    obtain ⟨noLeft, others⟩ := List.forall_mem_cons.mp plain
    have noInner := others inner List.mem_cons_self
    have opens : ¬ (mark :: (word ++ [mark])).isPrefixOf
        (mark :: join [mark] (inner :: right :: rest)) = true := by
      rw [List.isPrefixOf_iff_prefix, List.cons_prefix_cons, join_cons (List.cons_ne_nil _ _)]
      intro begins
      obtain ⟨t, whole⟩ := begins.2
      rw [List.append_assoc, List.append_assoc] at whole
      exact differs (append_cons_inj noWord noInner whole).1.symm
    rw [merge, if_neg differs, join_cons (List.cons_ne_nil _ _),
      join_cons (merge_ne_nil (List.cons_ne_nil _ _)), ← ih others, List.append_assoc,
      replaceFrom_append_of_not_mem noLeft, List.singleton_append, replaceFrom, if_neg opens,
      List.append_assoc, List.singleton_append]
  | case3 segments short =>
    -- Fewer than two marks leave no room for an occurrence.
    rw [merge]
    · apply replaceFrom_eq_self
      rcases segments with _ | ⟨left, _ | ⟨inner, _ | ⟨right, rest⟩⟩⟩
      · exact fun occurs => by cases List.infix_nil.mp occurs
      · exact not_infix_of_not_mem List.mem_cons_self (plain left List.mem_cons_self)
      · obtain ⟨noLeft, others⟩ := List.forall_mem_cons.mp plain
        have noInner := others inner List.mem_cons_self
        rw [join, join, List.append_assoc, cons_infix_append_iff noLeft, List.singleton_append,
          List.infix_cons_iff, List.cons_prefix_cons]
        intro occurs
        rcases occurs with ⟨-, begins⟩ | later
        · exact noInner (begins.subset (by simp))
        · exact noInner (later.subset List.mem_cons_self)
      · exact (short _ _ _ _ rfl).elim
    · exact short

end SchemaLint.Text
