import SchemaLint.Text.Basic

/-!
# Where a delimiter occurs in a text made of pieces

A line of output is printed piece by piece and read by searching for
delimiters, so a reader is right about the pieces only if no delimiter occurs
across a seam. Two laws decide that: a character foreign to the delimiter
separates the occurrences on its two sides (`infix_append_cons_iff`), and a
piece without the delimiter's first character has no part in any
(`cons_infix_append_iff`).

`cut?_eq_some_iff` says where the first cut falls, and `halves?_eq_some_iff`
when it is the only one; the cuts at a single character follow.
-/

namespace SchemaLint.Text

/-! ## Occurrences across a seam -/

/-- A character that the needle does not hold separates its occurrences. -/
theorem infix_append_cons_iff {needle a b : Text} {c : Char} (foreign : c ∉ needle) :
    needle <:+: a ++ c :: b ↔ needle <:+: a ∨ needle <:+: b := by
  constructor
  · intro occurs
    rcases List.infix_append_iff.mp occurs with left | right | ⟨l, r, split, ends, begins⟩
    · exact Or.inl left
    · rcases List.infix_cons_iff.mp right with begins | right
      · rcases List.prefix_cons_iff.mp begins with rfl | ⟨rest, rfl, -⟩
        · exact Or.inl List.nil_infix
        · exact (foreign List.mem_cons_self).elim
      · exact Or.inr right
    · rcases List.prefix_cons_iff.mp begins with rfl | ⟨rest, rfl, -⟩
      · rw [split, List.append_nil]
        exact Or.inl ends.isInfix
      · exact (foreign (by simp [split])).elim
  · rintro (left | right)
    · exact List.infix_append_of_infix_left left
    · exact List.infix_append_of_infix_right (List.infix_cons right)

/-- A text without the first character of the needle has no part in its
occurrences. -/
theorem cons_infix_append_iff {needle a b : Text} {c : Char} (absent : c ∉ a) :
    c :: needle <:+: a ++ b ↔ c :: needle <:+: b := by
  induction a with
  | nil => rfl
  | cons d a ih =>
    rw [List.mem_cons, not_or] at absent
    rw [List.cons_append, List.infix_cons_iff, ih absent.2, List.cons_prefix_cons]
    exact or_iff_right fun begins => absent.1 begins.1

/-- A needle with a character that the text lacks does not occur. -/
theorem not_infix_of_not_mem {needle t : Text} {c : Char} (held : c ∈ needle) (absent : c ∉ t) :
    ¬ needle <:+: t :=
  fun occurs => absent (occurs.subset held)

theorem contains_eq_false_iff {needle t : Text} : contains needle t = false ↔ ¬ needle <:+: t := by
  rw [← contains_iff, Bool.not_eq_true]

/-! ## The first cut -/

theorem append_dropLast_isPrefix (a delimiter b : Text) :
    a ++ delimiter.dropLast <+: a ++ delimiter ++ b := by
  rw [List.append_assoc, List.prefix_append_right_inj]
  exact (List.dropLast_prefix delimiter).trans (List.prefix_append delimiter b)

/-- Before the end of its first occurrence, a delimiter does not occur. -/
theorem not_infix_of_cut? {delimiter t left right : Text} (ne : delimiter ≠ [])
    (h : cut? delimiter t = some (left, right)) : ¬ delimiter <:+: left ++ delimiter.dropLast := by
  induction t generalizing left with
  | nil =>
    cases delimiter with
    | nil => exact (ne rfl).elim
    | cons d ds => simp [cut?] at h
  | cons c cs ih =>
    have whole := cut?_eq_some h
    rw [cut?] at h
    split at h
    · next =>
      simp only [Option.some.injEq, Prod.mk.injEq] at h
      obtain ⟨rfl, -⟩ := h
      intro occurs
      have shorter := occurs.length_le
      have := List.length_pos_iff.mpr ne
      simp only [List.nil_append, List.length_dropLast] at shorter
      omega
    · next absent =>
      obtain ⟨⟨l, r⟩, rest, parts⟩ := Option.map_eq_some_iff.1 h
      simp only [Prod.mk.injEq] at parts
      obtain ⟨rfl, rfl⟩ := parts
      rw [List.cons_append, List.infix_cons_iff, not_or]
      refine ⟨fun begins => absent ?_, ih rest⟩
      rw [List.isPrefixOf_iff_prefix, whole]
      exact begins.trans (append_dropLast_isPrefix (c :: l) delimiter r)

/-- A text is cut at a delimiter that does not occur before. -/
theorem cut?_append {delimiter left right : Text} (ne : delimiter ≠ [])
    (first : ¬ delimiter <:+: left ++ delimiter.dropLast) :
    cut? delimiter (left ++ delimiter ++ right) = some (left, right) := by
  induction left with
  | nil =>
    obtain ⟨d, ds, rfl⟩ := List.exists_cons_of_ne_nil ne
    simp [cut?]
  | cons c cs ih =>
    have absent : ¬ delimiter.isPrefixOf (c :: (cs ++ delimiter ++ right)) = true := by
      intro begins
      refine first (List.prefix_of_prefix_length_le (List.isPrefixOf_iff_prefix.mp begins)
        (append_dropLast_isPrefix (c :: cs) delimiter right) ?_).isInfix
      simp only [List.length_cons, List.length_append, List.length_dropLast]
      omega
    rw [List.cons_append, List.cons_append, cut?, if_neg absent,
      ih fun occurs => first (List.infix_cons occurs)]
    rfl

/-- The first cut, by what the text is and where the delimiter does not occur. -/
theorem cut?_eq_some_iff {delimiter t left right : Text} (ne : delimiter ≠ []) :
    cut? delimiter t = some (left, right) ↔
      t = left ++ delimiter ++ right ∧ ¬ delimiter <:+: left ++ delimiter.dropLast := by
  constructor
  · exact fun h => ⟨cut?_eq_some h, not_infix_of_cut? ne h⟩
  · rintro ⟨rfl, first⟩
    exact cut?_append ne first

theorem cut?_eq_none_iff {delimiter t : Text} : cut? delimiter t = none ↔ ¬ delimiter <:+: t := by
  rw [← contains_iff, ← isSome_cut?, Bool.not_eq_true, Option.isSome_eq_false_iff,
    Option.isNone_iff_eq_none]

/-! ## The only cut -/

theorem halves?_eq_some_iff {delimiter t left right : Text} :
    halves? delimiter t = some (left, right) ↔
      cut? delimiter t = some (left, right) ∧ ¬ delimiter <:+: right := by
  rw [← contains_eq_false_iff]
  unfold halves?
  split
  · next l r found =>
    simp only [found, Option.some.injEq, Prod.mk.injEq]
    split
    · next more =>
      simp only [reduceCtorEq, false_iff, not_and]
      rintro ⟨-, rfl⟩
      simp [more]
    · next only =>
      simp only [Option.some.injEq, Prod.mk.injEq]
      refine ⟨fun parts => ⟨parts, ?_⟩, And.left⟩
      rw [← parts.2]
      simpa using only
  · next absent => simp [absent]

/-- A text that holds no delimiter has no halves. -/
theorem halves?_eq_none {delimiter t : Text} (absent : ¬ delimiter <:+: t) :
    halves? delimiter t = none := by
  rw [halves?, cut?_eq_none_iff.mpr absent]

/-! ## Cuts at a single character -/

theorem before_append_cons {mark : Char} {a b : Text} (absent : mark ∉ a) :
    before mark (a ++ mark :: b) = a := by
  rw [before, List.takeWhile_append_of_pos, List.takeWhile_cons_of_neg (by simp), List.append_nil]
  intro c held
  exact bne_iff_ne.mpr fun same => absent (same ▸ held)

theorem after?_append_cons {mark : Char} {a b : Text} (absent : mark ∉ a) :
    after? mark (a ++ mark :: b) = some b := by
  rw [after?, List.dropWhile_append_of_pos, List.dropWhile_cons_of_neg (by simp)]
  intro c held
  exact bne_iff_ne.mpr fun same => absent (same ▸ held)

theorem before_of_not_mem {mark : Char} {t : Text} (absent : mark ∉ t) : before mark t = t := by
  rw [before, ← List.append_nil t, List.takeWhile_append_of_pos]
  · simp
  · intro c held
    exact bne_iff_ne.mpr fun same => absent (same ▸ held)

theorem after?_of_not_mem {mark : Char} {t : Text} (absent : mark ∉ t) : after? mark t = none := by
  rw [after?, ← List.append_nil t, List.dropWhile_append_of_pos]
  · rfl
  · intro c held
    exact bne_iff_ne.mpr fun same => absent (same ▸ held)

theorem before_isPrefix (mark : Char) (t : Text) : before mark t <+: t := List.takeWhile_prefix _

theorem not_mem_before (mark : Char) (t : Text) : mark ∉ before mark t := by
  intro held
  have all : (before mark t).all (· != mark) = true := List.all_takeWhile
  simpa using List.all_eq_true.mp all mark held

/-- The mark and what is after it follow what is before it. -/
theorem append_of_after?_eq_some {mark : Char} {t rest : Text} (h : after? mark t = some rest) :
    t = before mark t ++ mark :: rest := by
  unfold after? at h
  split at h
  · cases h
  · next c cs dropped =>
    cases h
    have stops := List.head?_dropWhile_not (· != mark) t
    rw [dropped] at stops
    have same : c = mark := by simpa using stops
    have parts : before mark t ++ t.dropWhile (· != mark) = t := List.takeWhile_append_dropWhile
    rw [dropped, same] at parts
    exact parts.symm

end SchemaLint.Text
