import SchemaLint.Proofs.Text.Search

/-!
# Texts that come apart in one way only

A join of texts is not injective, since a part may hold the separator. The laws
here say when the parts are determined all the same: a character that the first
part lacks ends it (`append_cons_inj`), a text at both ends of a known middle is
determined by the length (`append_append_self_inj`), and one at both ends of an
unknown middle by counting a character that ends the middle
(`append_append_self_inj_of_count`).
-/

namespace SchemaLint.Text

/-- A character that neither text holds ends both at the same place. -/
theorem append_cons_inj {a b a' b' : Text} {c : Char} (absent : c ∉ a) (absent' : c ∉ a')
    (same : a ++ c :: b = a' ++ c :: b') : a = a' ∧ b = b' := by
  constructor
  · rw [← before_append_cons (b := b) absent, same, before_append_cons absent']
  · have rest := congrArg (after? c) same
    rw [after?_append_cons absent, after?_append_cons absent'] at rest
    exact Option.some.inj rest

/-- A text at both ends of a known middle is determined. -/
theorem append_append_self_inj {x y m : Text} (same : x ++ (m ++ x) = y ++ (m ++ y)) : x = y := by
  have lengths := congrArg List.length same
  simp only [List.length_append] at lengths
  exact (List.append_inj same (by omega)).1

/-- A text cannot grow at both ends of a middle that keeps the count of its last
character: what it gains at the front would be lost at the back of the middle. -/
theorem eq_nil_of_append_append_self {x u m m' : Text} {c : Char}
    (same : m ++ x = u ++ (m' ++ (x ++ u))) (count : m.count c = m'.count c)
    (last : m.getLast? = some c) : u = [] := by
  rw [← List.append_assoc] at same
  rcases List.append_eq_append_iff.mp same with ⟨v, -, shorter⟩ | ⟨v, longer, ends⟩
  · have lengths := congrArg List.length shorter
    simp only [List.length_append] at lengths
    exact List.eq_nil_of_length_eq_zero (by omega)
  · have counts := congrArg (List.count c) longer
    simp only [List.count_append] at counts
    rcases List.eq_nil_or_concat v with rfl | ⟨w, d, rfl⟩
    · exact List.append_right_eq_self.mp ends
    · -- The middle ends in `c`, and `v` is its end: one `c` too many.
      rw [longer, List.concat_eq_append, ← List.append_assoc, List.getLast?_concat] at last
      cases last
      rw [List.concat_eq_append, List.count_append, List.count_singleton_self] at counts
      omega

/-- A text at both ends of a middle is determined, and so is the middle, when the
middles end in a character that both hold equally often. -/
theorem append_append_self_inj_of_count {x y m m' : Text} {c : Char}
    (same : x ++ (m ++ x) = y ++ (m' ++ y)) (count : m.count c = m'.count c)
    (last : m.getLast? = some c) (last' : m'.getLast? = some c) : x = y ∧ m = m' := by
  have ends : x = y := by
    rcases List.append_eq_append_iff.mp same with ⟨u, rfl, rest⟩ | ⟨u, rfl, rest⟩
    · rw [eq_nil_of_append_append_self rest count last, List.append_nil]
    · rw [eq_nil_of_append_append_self rest count.symm last', List.append_nil]
  subst ends
  exact ⟨rfl, List.append_cancel_right (List.append_cancel_left same)⟩

end SchemaLint.Text
