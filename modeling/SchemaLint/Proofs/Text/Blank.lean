import SchemaLint.Text.Blank

/-!
# Trimming and words

`Trimmed p t` says that neither end of `t` satisfies `p`. Trimming gives such a
text (`trimmed_trimBy`) and changes no other (`trimBy_append`): what it takes off
is exactly the two runs around a text that is trimmed already. The words of a
text hold none but its own characters.
-/

namespace SchemaLint.Text

variable {p : Char → Bool} {t : Text}

/-! ## Trimming -/

/-- Neither the first nor the last character satisfies `p`. -/
structure Trimmed (p : Char → Bool) (t : Text) : Prop where
  head : ∀ c ∈ t.head?, p c = false
  last : ∀ c ∈ t.getLast?, p c = false

theorem trimmed_iff : Trimmed p t ↔
    t.head?.all (fun c => !p c) = true ∧ t.getLast?.all (fun c => !p c) = true := by
  simp only [Option.all_eq_true, Bool.not_eq_true']
  exact ⟨fun h => ⟨h.head, h.last⟩, fun h => ⟨h.1, h.2⟩⟩

instance (p : Char → Bool) (t : Text) : Decidable (Trimmed p t) :=
  decidable_of_iff _ trimmed_iff.symm

theorem Trimmed.of_all (none : ∀ c ∈ t, p c = false) : Trimmed p t :=
  ⟨fun c first => none c (List.mem_of_mem_head? first),
    fun c final => none c (List.mem_of_mem_getLast? final)⟩

/-- Trimmed texts make a trimmed text. -/
theorem Trimmed.append {u : Text} (left : Trimmed p t) (right : Trimmed p u) :
    Trimmed p (t ++ u) where
  head c first := by
    rw [List.head?_append, Option.mem_def, Option.or_eq_some_iff] at first
    rcases first with first | ⟨-, first⟩
    · exact left.head c first
    · exact right.head c first
  last c final := by
    rw [List.getLast?_append, Option.mem_def, Option.or_eq_some_iff] at final
    rcases final with final | ⟨-, final⟩
    · exact right.last c final
    · exact left.last c final

theorem dropWhile_eq_self (head : ∀ c ∈ t.head?, p c = false) : t.dropWhile p = t := by
  cases t with
  | nil => rfl
  | cons c cs => rw [List.dropWhile_cons_of_neg (by simp [head c rfl])]

theorem dropEndWhile_append {b : Text} (last : ∀ c ∈ t.getLast?, p c = false)
    (run : ∀ c ∈ b, p c = true) : dropEndWhile p (t ++ b) = t := by
  rw [dropEndWhile, List.reverse_append,
    List.dropWhile_append_of_pos fun c held => run c (List.mem_reverse.mp held),
    dropWhile_eq_self (by rwa [List.head?_reverse]), List.reverse_reverse]

/-- Trimming takes the runs around a trimmed text off, and nothing else. -/
theorem trimBy_append {a b : Text} (trimmed : Trimmed p t) (before : ∀ c ∈ a, p c = true)
    (after : ∀ c ∈ b, p c = true) : trimBy p (a ++ t ++ b) = t := by
  rw [trimBy, List.append_assoc, List.dropWhile_append_of_pos before]
  cases t with
  | nil =>
    rw [List.nil_append, ← List.append_nil b, List.dropWhile_append_of_pos after]
    rfl
  | cons c cs =>
    rw [dropWhile_eq_self (t := c :: cs ++ b) fun d first => trimmed.head d first]
    exact dropEndWhile_append trimmed.last after

theorem trimBy_eq_self (trimmed : Trimmed p t) : trimBy p t = t := by
  simpa using trimBy_append (a := []) (b := []) trimmed (by simp) (by simp)

theorem dropEndWhile_isPrefix (p : Char → Bool) (t : Text) : dropEndWhile p t <+: t := by
  rw [← List.reverse_suffix, dropEndWhile, List.reverse_reverse]
  exact List.dropWhile_suffix p

theorem trimBy_isInfix (p : Char → Bool) (t : Text) : trimBy p t <:+: t :=
  (dropEndWhile_isPrefix p _).isInfix.trans (List.dropWhile_suffix p).isInfix

theorem head?_dropWhile_eq_false (p : Char → Bool) (t : Text) :
    ∀ c ∈ (t.dropWhile p).head?, p c = false := by
  intro c first
  have stops := List.head?_dropWhile_not p t
  rw [Option.mem_def.mp first] at stops
  simpa using stops

/-- What trimming gives is trimmed. -/
theorem trimmed_trimBy (p : Char → Bool) (t : Text) : Trimmed p (trimBy p t) where
  head c first := by
    refine head?_dropWhile_eq_false p t c ?_
    obtain ⟨rest, whole⟩ := dropEndWhile_isPrefix p (t.dropWhile p)
    rw [← whole, Option.mem_def, List.head?_append, ← trimBy, Option.mem_def.mp first]
    rfl
  last c final := by
    rw [trimBy, dropEndWhile, List.getLast?_reverse] at final
    exact head?_dropWhile_eq_false p _ c final

/-! ## Words -/

theorem isBlank_of_infix {part : Text} (occurs : part <:+: t) (blank : isBlank t = true) :
    isBlank part = true := by
  rw [isBlank, List.all_eq_true] at blank ⊢
  exact fun c held => blank c (occurs.subset held)

/-- The parts of a text hold characters of the text, and none that it was split at. -/
theorem mem_of_mem_splitOnP {part : Text} (held : part ∈ t.splitOnP p) :
    ∀ c ∈ part, c ∈ t ∧ p c = false := by
  induction t generalizing part with
  | nil =>
    rw [List.splitOnP_nil, List.mem_singleton] at held
    subst held
    exact fun _ inside => nomatch inside
  | cons d t ih =>
    have later {part : Text} (held : part ∈ t.splitOnP p) : ∀ c ∈ part, c ∈ d :: t ∧ p c = false :=
      fun c inside => ⟨List.mem_cons_of_mem d (ih held c inside).1, (ih held c inside).2⟩
    obtain ⟨first, rest, parts⟩ := List.exists_cons_of_ne_nil (List.splitOnP_ne_nil p t)
    rw [parts] at later
    rw [List.splitOnP_cons_eq_if_modifyHead, parts] at held
    split at held
    · rcases List.mem_cons.mp held with rfl | held
      · exact fun _ inside => nomatch inside
      · exact later held
    · next kept =>
      rw [List.modifyHead_cons, List.mem_cons] at held
      rcases held with rfl | held
      · exact List.forall_mem_cons.mpr
          ⟨⟨List.mem_cons_self, by simpa using kept⟩, later List.mem_cons_self⟩
      · exact later (List.mem_cons_of_mem first held)

/-- The first part of a text begins it, and the others occur in it. -/
theorem splitOnP_infix (p : Char → Bool) (t : Text) :
    ∃ first rest, t.splitOnP p = first :: rest ∧ first <+: t ∧ ∀ part ∈ rest, part <:+: t := by
  induction t with
  | nil => exact ⟨[], [], List.splitOnP_nil, List.prefix_refl [], nofun⟩
  | cons c t ih =>
    obtain ⟨first, rest, parts, begins, occur⟩ := ih
    have later (part : Text) (inside : part <:+: t) : part <:+: c :: t :=
      inside.trans (List.suffix_cons c t).isInfix
    rw [List.splitOnP_cons_eq_if_modifyHead, parts]
    split
    · refine ⟨[], first :: rest, rfl, List.nil_prefix, List.forall_mem_cons.mpr ⟨?_, ?_⟩⟩
      · exact later first begins.isInfix
      · exact fun part held => later part (occur part held)
    · exact ⟨c :: first, rest, rfl, List.prefix_cons_inj c |>.mpr begins,
        fun part held => later part (occur part held)⟩

theorem infix_of_mem_splitOnP {part : Text} (held : part ∈ t.splitOnP p) : part <:+: t := by
  obtain ⟨first, rest, parts, begins, occur⟩ := splitOnP_infix p t
  rw [parts] at held
  rcases List.mem_cons.mp held with rfl | later
  · exact begins.isInfix
  · exact occur part later

theorem mem_of_mem_words {word : Text} (held : word ∈ words t) :
    ∀ c ∈ word, c ∈ t ∧ isBlankChar c = false :=
  mem_of_mem_splitOnP (List.mem_filter.mp held).1

theorem dropEnding_isPrefix (ending t : Text) : dropEnding ending t <+: t := by
  unfold dropEnding
  split
  · exact List.take_prefix _ t
  · exact List.prefix_refl t

/-- An ending of one character is no part of a text that ends otherwise. -/
theorem infix_dropEnding {needle : Text} {c : Char} (last : needle.getLast? ≠ some c)
    (occurs : needle <:+: t) : needle <:+: dropEnding [c] t := by
  unfold dropEnding
  split
  · next ends =>
    obtain ⟨start, rfl⟩ := List.isSuffixOf_iff_suffix.mp ends
    rw [List.length_append, Nat.add_sub_cancel, List.take_left' rfl]
    rcases List.infix_concat_iff.mp occurs with final | inside
    · rcases List.suffix_concat_iff.mp final with rfl | ⟨rest, rfl, -⟩
      · exact List.nil_infix
      · exact (last List.getLast?_concat).elim
    · exact inside
  · exact occurs

end SchemaLint.Text
