import SchemaLint.Text.LowerCase
import SchemaLint.Proofs.Text.Blank
import SchemaLint.Proofs.Text.Search

/-!
# Words of a text made of pieces

Words come apart at each blank (`words_append_cons`), so a text that ends in one has
no word in common with what follows it, and the words of a text are those of its
pieces. Blanks around a text neither change its words (`words_trim`) nor have a part
in an occurrence of a text without blanks at its ends (`infix_around_iff`).
-/

namespace SchemaLint.Text

variable {t u : Text}

theorem words_append_cons {c : Char} (blank : isBlankChar c = true) (t u : Text) :
    words (t ++ c :: u) = words t ++ words u := by
  rw [words, List.splitOnP_append_cons t u blank, List.filter_append]
  rfl

theorem words_nil : words [] = [] := rfl

/-- No word goes on beyond a blank at the end. -/
theorem words_append_of_last (last : ∀ c ∈ t.getLast?, isBlankChar c = true) (u : Text) :
    words (t ++ u) = words t ++ words u := by
  rcases List.eq_nil_or_concat t with rfl | ⟨s, c, rfl⟩
  · rfl
  · rw [List.concat_eq_append] at last ⊢
    have blank := last c List.getLast?_concat
    rw [List.append_assoc, List.singleton_append, words_append_cons blank,
      words_append_cons blank, words_nil, List.append_nil]

/-- No word begins before a blank at the start. -/
theorem words_append_of_head (head : ∀ c ∈ u.head?, isBlankChar c = true) (t : Text) :
    words (t ++ u) = words t ++ words u := by
  cases u with
  | nil => rw [words_nil, List.append_nil, List.append_nil]
  | cons c u =>
    have blank := head c rfl
    have start : words (c :: u) = words u := words_append_cons blank [] u
    rw [words_append_cons blank, start]

/-- A text without blanks is one word. -/
theorem words_of_solid (ne : t ≠ []) (solid : ∀ c ∈ t, isBlankChar c = false) : words t = [t] := by
  rw [words, List.splitOnP_eq_singleton solid, List.filter_cons_of_pos]
  · rfl
  · simpa using ne

theorem words_of_blank (blank : ∀ c ∈ t, isBlankChar c = true) : words t = [] := by
  induction t with
  | nil => rfl
  | cons c t ih =>
    obtain ⟨first, rest⟩ := List.forall_mem_cons.mp blank
    have start : words (c :: t) = words t := words_append_cons first [] t
    rw [start, ih rest]

/-! ## Blanks at the ends -/

/-- What trimming takes off, on both sides. -/
theorem exists_trimBy (p : Char → Bool) (t : Text) : ∃ a b, t = a ++ trimBy p t ++ b ∧
    (∀ c ∈ a, p c = true) ∧ ∀ c ∈ b, p c = true := by
  have run (s : Text) : ∀ c ∈ s.takeWhile p, p c = true :=
    List.all_eq_true.mp List.all_takeWhile
  refine ⟨t.takeWhile p, ((t.dropWhile p).reverse.takeWhile p).reverse, ?_, run t, ?_⟩
  · have back : trimBy p t ++ ((t.dropWhile p).reverse.takeWhile p).reverse = t.dropWhile p := by
      rw [trimBy, dropEndWhile, ← List.reverse_append, List.takeWhile_append_dropWhile,
        List.reverse_reverse]
    rw [List.append_assoc, back, List.takeWhile_append_dropWhile]
  · intro c held
    exact run _ c (List.mem_reverse.mp held)

theorem words_trim (t : Text) : words (trim t) = words t := by
  obtain ⟨a, b, whole, before, after⟩ := exists_trimBy isBlankChar t
  have last : ∀ c ∈ a.getLast?, isBlankChar c = true :=
    fun c final => before c (List.mem_of_mem_getLast? final)
  have head : ∀ c ∈ b.head?, isBlankChar c = true :=
    fun c first => after c (List.mem_of_mem_head? first)
  have same : words (a ++ trimBy isBlankChar t ++ b) = words (trimBy isBlankChar t) := by
    rw [words_append_of_head head, words_append_of_last last, words_of_blank before,
      words_of_blank after, List.nil_append, List.append_nil]
  rw [trim, ← same, ← whole]

/-- A text that neither begins nor ends in `p` occurs between two runs of `p` as it does
without them. -/
theorem infix_around_iff {p : Char → Bool} {needle a b : Text} (ne : needle ≠ [])
    (trimmed : Trimmed p needle) (before : ∀ c ∈ a, p c = true) (after : ∀ c ∈ b, p c = true) :
    needle <:+: a ++ t ++ b ↔ needle <:+: t := by
  have foreign {s : Text} {c : Char} (run : ∀ c ∈ s, p c = true) (out : p c = false) : c ∉ s := by
    intro held
    rw [run c held] at out
    cases out
  obtain ⟨first, rest, opening⟩ := List.exists_cons_of_ne_nil ne
  obtain ⟨final, front, closing⟩ :=
    List.exists_cons_of_ne_nil (List.reverse_ne_nil_iff.mpr ne)
  have noFirst : first ∉ a := foreign before (trimmed.head first (by rw [opening]; rfl))
  have noFinal : final ∉ b.reverse := by
    rw [List.mem_reverse]
    refine foreign after (trimmed.last final ?_)
    rw [← List.head?_reverse, closing]
    rfl
  calc needle <:+: a ++ t ++ b
      ↔ needle <:+: t ++ b := by
        rw [opening, List.append_assoc]
        exact cons_infix_append_iff noFirst
    _ ↔ needle.reverse <:+: b.reverse ++ t.reverse := by
        rw [← List.reverse_append, List.reverse_infix]
    _ ↔ needle.reverse <:+: t.reverse := by
        rw [closing]
        exact cons_infix_append_iff noFinal
    _ ↔ needle <:+: t := List.reverse_infix

/-! ## Blanks in lower case -/

/-- The blank characters by number. -/
def blankNumbers : List Nat :=
  blankRanges.flatMap fun range => List.range' range.1 (range.2 + 1 - range.1)

theorem mem_blankNumbers {c : Char} (blank : isBlankChar c = true) : c.toNat ∈ blankNumbers := by
  obtain ⟨range, listed, inside⟩ := List.any_eq_true.mp blank
  simp only [Bool.and_eq_true, decide_eq_true_eq] at inside
  exact List.mem_flatMap.mpr ⟨range, listed, List.mem_range'_1.mpr ⟨inside.1, by omega⟩⟩

theorem lowerChar_of_blank {c : Char} (blank : isBlankChar c = true) : lowerChar c = [c] := by
  have all : ∀ n ∈ blankNumbers, lowerChar (Char.ofNat n) = [Char.ofNat n] := by decide +kernel
  have same := all c.toNat (mem_blankNumbers blank)
  rwa [Char.ofNat_toNat] at same

/-- Blanks have no case. -/
theorem lowerCase_of_blank (blank : ∀ c ∈ t, isBlankChar c = true) : lowerCase t = t := by
  induction t with
  | nil => rfl
  | cons c t ih =>
    obtain ⟨first, rest⟩ := List.forall_mem_cons.mp blank
    rw [lowerCase, List.flatMap_cons, lowerChar_of_blank first, List.singleton_append]
    exact congrArg (c :: ·) (ih rest)

end SchemaLint.Text
