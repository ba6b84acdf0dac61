import SchemaLint.Proofs.Text.Search

/-!
# Replacing an occurrence

Replacing leaves a text without occurrences alone (`replaceAll_eq_self`), and
puts the new text in the place of a lone occurrence (`replaceAll_append`). Where there
is an occurrence the result tells what was put there (`replaceAll_eq_iff`): a longer
text makes the result longer, so two texts that give one result have one length.
-/

namespace SchemaLint.Text

variable {old new t : Text}

theorem replaceFrom_eq_self (absent : ¬ old <:+: t) : replaceFrom old new 0 t = t := by
  induction t with
  | nil => rfl
  | cons c cs ih =>
    rw [List.infix_cons_iff, not_or, ← List.isPrefixOf_iff_prefix] at absent
    rw [replaceFrom, if_neg absent.1, ih absent.2]

theorem replaceAll_eq_self (absent : ¬ old <:+: t) : replaceAll old new t = t := by
  unfold replaceAll
  split
  · rfl
  · exact replaceFrom_eq_self absent

/-- What was replaced is passed over. -/
theorem replaceFrom_append (a b : Text) :
    replaceFrom old new a.length (a ++ b) = replaceFrom old new 0 b := by
  induction a with
  | nil => rfl
  | cons c a ih => exact ih

/-- An occurrence at the front is replaced. -/
theorem replaceFrom_old_append (ne : old ≠ []) (b : Text) :
    replaceFrom old new 0 (old ++ b) = new ++ replaceFrom old new 0 b := by
  obtain ⟨c, cs, rfl⟩ := List.exists_cons_of_ne_nil ne
  have begins : (c :: cs).isPrefixOf (c :: (cs ++ b)) = true := by
    rw [List.isPrefixOf_iff_prefix]
    exact List.prefix_append (c :: cs) b
  rw [List.cons_append, replaceFrom, if_pos begins, List.length_cons, Nat.add_sub_cancel,
    replaceFrom_append]

/-- The first occurrence is replaced, and the text before it stays. -/
theorem replaceFrom_append_old {a : Text} (ne : old ≠ []) (first : ¬ old <:+: a ++ old.dropLast)
    (b : Text) :
    replaceFrom old new 0 (a ++ old ++ b) = a ++ new ++ replaceFrom old new 0 b := by
  induction a with
  | nil => exact replaceFrom_old_append ne b
  | cons c a ih =>
    have later : ¬ old.isPrefixOf (c :: (a ++ old ++ b)) = true := by
      rw [List.isPrefixOf_iff_prefix]
      intro begins
      refine first (List.prefix_of_prefix_length_le begins
        (append_dropLast_isPrefix (c :: a) old b) ?_).isInfix
      have := List.length_pos_iff.mpr ne
      simp only [List.cons_append, List.length_cons, List.length_append, List.length_dropLast]
      omega
    rw [List.cons_append, List.cons_append, replaceFrom, if_neg later,
      ih fun occurs => first (List.infix_cons occurs)]
    rfl

/-- The only occurrence is replaced, and the text around it stays. -/
theorem replaceAll_append {a b : Text} (ne : old ≠ []) (first : ¬ old <:+: a ++ old.dropLast)
    (only : ¬ old <:+: b) : replaceAll old new (a ++ old ++ b) = a ++ new ++ b := by
  rw [replaceAll, if_neg (by simpa using ne), replaceFrom_append_old ne first,
    replaceFrom_eq_self only]

/-- A longer text in place of the occurrences does not make the result shorter. -/
theorem length_replaceFrom_le (old t : Text) {new new' : Text} (shorter : new.length ≤ new'.length) (skip : Nat) :
    (replaceFrom old new skip t).length ≤ (replaceFrom old new' skip t).length := by
  induction t generalizing skip with
  | nil => simp [replaceFrom]
  | cons c cs ih =>
    cases skip with
    | succ skip => exact ih skip
    | zero =>
      rw [replaceFrom, replaceFrom]
      split
      · rw [List.length_append, List.length_append]
        exact Nat.add_le_add shorter (ih _)
      · exact Nat.succ_le_succ (ih 0)

theorem eq_of_replaceFrom_eq {new' : Text} (ne : old ≠ []) (occurs : old <:+: t)
    (same : replaceFrom old new 0 t = replaceFrom old new' 0 t) : new = new' := by
  induction t with
  | nil => exact (ne (List.infix_nil.mp occurs)).elim
  | cons c cs ih =>
    rw [replaceFrom, replaceFrom] at same
    split at same
    · -- What follows the first occurrence cannot make up for a difference in length.
      have total := congrArg List.length same
      rw [List.length_append, List.length_append] at total
      have length : new.length = new'.length := by
        rcases Nat.le_total new.length new'.length with shorter | longer
        · have rest := length_replaceFrom_le old cs shorter (old.length - 1)
          omega
        · have rest := length_replaceFrom_le old cs longer (old.length - 1)
          omega
      exact (List.append_inj same length).1
    · next later =>
      rw [List.isPrefixOf_iff_prefix] at later
      exact ih ((List.infix_cons_iff.mp occurs).resolve_left later) (List.cons.inj same).2

/-- Two texts give one result exactly if they are the same or there is nothing to
replace. -/
theorem replaceAll_eq_iff {new' : Text} (ne : old ≠ []) :
    replaceAll old new t = replaceAll old new' t ↔ new = new' ∨ ¬ old <:+: t := by
  constructor
  · intro same
    rw [replaceAll, replaceAll, if_neg (by simpa using ne), if_neg (by simpa using ne)] at same
    exact (Decidable.em (old <:+: t)).imp (eq_of_replaceFrom_eq ne · same) id
  · rintro (rfl | absent)
    · rfl
    · rw [replaceAll_eq_self absent, replaceAll_eq_self absent]

end SchemaLint.Text
