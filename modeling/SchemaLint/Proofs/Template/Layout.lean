import SchemaLint.Proofs.Template

/-!
# Templates in parts

A template is a text and slots with the text after each (`Layout`). It is filled in
placeholder by placeholder, each in its turn, where one would put all values in at once
(`Layout.substitute`). A turn that finds only the slots of its own placeholder in the draft
leaves the draft of the next one (`Layout.replaceAll_draft_of_finds`), and if all turns do
so the result is that of putting the values in at once (`Layout.render_of_finds`). The
values may be any here. One that holds the text of a later placeholder is found in the
turn of that one.
-/

namespace SchemaLint

open Text

/-- A template in parts: a text, and slots with the text after each. -/
structure Layout where
  lead : Text
  slots : List (Placeholder × Text)
deriving Repr, DecidableEq

namespace Layout

/-- The template, with the slots written as placeholders. -/
def template (l : Layout) : Text := l.lead ++ l.slots.flatMap fun (p, t) => p.text ++ t

/-- The template with all values put in at once. -/
def substitute (v : TemplateValues) (l : Layout) : Text :=
  l.lead ++ l.slots.flatMap fun (p, t) => p.value v ++ t

/-- Only the placeholders have percent signs. -/
def Plain (l : Layout) : Prop := '%' ∉ l.lead ∧ ∀ slot ∈ l.slots, '%' ∉ slot.2

instance (l : Layout) : Decidable l.Plain := inferInstanceAs (Decidable (_ ∧ _))

/-- What a slot holds once the turns of some placeholders are over. -/
def held (v : TemplateValues) (done : List Placeholder) (p : Placeholder) : Text :=
  if p ∈ done then p.value v else p.text

/-- The template once the turns of some placeholders are over. -/
def draft (v : TemplateValues) (done : List Placeholder) (l : Layout) : Text :=
  l.lead ++ l.slots.flatMap fun (p, t) => held v done p ++ t

variable {v : TemplateValues} {done : List Placeholder} {p q : Placeholder} {l : Layout}

theorem held_of_mem (past : p ∈ done) : held v done p = p.value v := if_pos past

theorem held_of_not_mem (still : p ∉ done) : held v done p = p.text := if_neg still

theorem held_concat_self : held v (done ++ [q]) q = q.value v :=
  held_of_mem (List.mem_append_right _ List.mem_cons_self)

theorem held_concat_of_ne (other : p ≠ q) : held v (done ++ [q]) p = held v done p := by
  simp [held, other]

theorem draft_nil : l.draft v [] = l.template := by
  simp [draft, template, held]

theorem draft_all : l.draft v Placeholder.all = l.substitute v := by
  simp [draft, substitute, held, Placeholder.mem_all]

/-! ## Any values -/

/-- In the turn of a placeholder, every occurrence in the draft begins in one of its own
slots. -/
def Finds (v : TemplateValues) (done : List Placeholder) (q : Placeholder) (l : Layout) : Prop :=
  ∀ x y, l.draft v done = x ++ q.text ++ y →
    ∃ before t after, l.slots = before ++ (q, t) :: after ∧
      (draft v done ⟨l.lead, before⟩).length ≤ x.length ∧
      x.length < (draft v done ⟨l.lead, before⟩ ++ q.text).length

theorem draft_cons (a t : Text) (p : Placeholder) (rest : List (Placeholder × Text)) :
    draft v done ⟨a, (p, t) :: rest⟩ = draft v done ⟨a ++ held v done p ++ t, rest⟩ := by
  simp [draft]

theorem draft_append (a b : Text) (slots : List (Placeholder × Text)) :
    draft v done ⟨a ++ b, slots⟩ = a ++ draft v done ⟨b, slots⟩ := by
  simp [draft]

section

variable {a t : Text} {rest : List (Placeholder × Text)}

/-- Up to the first own slot there is no occurrence. -/
theorem Finds.not_infix (still : q ∉ done) (finds : Finds v done q ⟨a, (q, t) :: rest⟩) :
    ¬ q.text <:+: a ++ q.text.dropLast := by
  intro occurs
  obtain ⟨x, y, whole⟩ := occurs
  have lengths := congrArg List.length whole
  have draft_eq : draft v done ⟨a, (q, t) :: rest⟩ =
      x ++ q.text ++ (y ++ '%' :: draft v done ⟨t, rest⟩) := by
    have ending : q.text = q.text.dropLast ++ ['%'] := by cases q <;> rfl
    rw [draft_cons, held_of_not_mem still, draft_append, ← List.append_assoc, whole, ending]
    simp
  obtain ⟨before, t', after, -, le, -⟩ := finds _ _ draft_eq
  simp only [draft, List.length_append, List.length_dropLast, Placeholder.text_eq,
    List.length_cons] at lengths le
  omega

/-- After an own slot the others are found. -/
theorem Finds.after_own (still : q ∉ done) (finds : Finds v done q ⟨a, (q, t) :: rest⟩) :
    Finds v done q ⟨t, rest⟩ := by
  intro x y whole
  have draft_eq : draft v done ⟨a, (q, t) :: rest⟩ = a ++ q.text ++ x ++ q.text ++ y := by
    rw [draft_cons, held_of_not_mem still, draft_append, whole]
    simp
  obtain ⟨before, t', after, slots, le, lt⟩ := finds _ _ draft_eq
  cases before with
  | nil =>
    simp only [draft, List.flatMap_nil, List.append_nil, List.length_append] at lt
    omega
  | cons slot before =>
    cases slots
    refine ⟨before, t', after, rfl, ?_, ?_⟩
    · rw [draft_cons, held_of_not_mem still, draft_append] at le
      simp only [List.length_append] at le ⊢
      omega
    · rw [draft_cons, held_of_not_mem still, draft_append] at lt
      simp only [List.length_append] at lt ⊢
      omega

/-- Another slot is text around the own ones. -/
theorem Finds.after_other (other : p ≠ q) (finds : Finds v done q ⟨a, (p, t) :: rest⟩) :
    Finds v done q ⟨a ++ held v done p ++ t, rest⟩ := by
  intro x y whole
  rw [← draft_cons] at whole
  obtain ⟨before, t', after, slots, inside⟩ := finds x y whole
  cases before with
  | nil =>
    cases slots
    exact (other rfl).elim
  | cons slot before =>
    cases slots
    rw [draft_cons] at inside
    exact ⟨before, t', after, rfl, inside⟩

end

/-- A placeholder that finds only its own slots fills them in. -/
theorem replaceAll_draft_of_finds (still : q ∉ done) (finds : l.Finds v done q) :
    replaceAll q.text (q.value v) (l.draft v done) = l.draft v (done ++ [q]) := by
  have ne : q.text ≠ [] := by simp [q.text_eq]
  rw [replaceAll, if_neg (by simpa using ne)]
  obtain ⟨a, slots⟩ := l
  induction slots generalizing a with
  | nil =>
    have absent : ¬ q.text <:+: draft v done ⟨a, []⟩ := by
      intro occurs
      obtain ⟨x, y, whole⟩ := occurs
      obtain ⟨before, t, after, slots, -⟩ := finds x y whole.symm
      cases before <;> cases slots
    exact replaceFrom_eq_self absent
  | cons slot rest ih =>
    obtain ⟨p, t⟩ := slot
    by_cases own : p = q
    · subst own
      rw [draft_cons, draft_cons, held_of_not_mem still, held_concat_self, draft_append,
        draft_append, replaceFrom_append_old ne (finds.not_infix still), ih t (finds.after_own still)]
    · rw [draft_cons, draft_cons, held_concat_of_ne own, ih _ (finds.after_other own)]

end Layout

namespace Placeholder

/-- The placeholders whose turns come before that of a placeholder. -/
def earlier (q : Placeholder) : List Placeholder := all.takeWhile (· ≠ q)

variable {done rest : List Placeholder} {q : Placeholder}

theorem not_mem_of_split (order : all = done ++ q :: rest) : q ∉ done := by
  have nodup : all.Nodup := by decide
  rw [order] at nodup
  intro held
  exact (List.nodup_append.mp nodup).2.2 q held q List.mem_cons_self rfl

theorem earlier_eq (order : all = done ++ q :: rest) : q.earlier = done := by
  have others : ∀ p ∈ done, decide (p ≠ q) = true := by
    intro p held
    rw [decide_eq_true_eq]
    intro same
    rw [same] at held
    exact not_mem_of_split order held
  rw [earlier, order, List.takeWhile_append_of_pos others, List.takeWhile_cons_of_neg (by simp),
    List.append_nil]

end Placeholder

namespace Layout

variable {v : TemplateValues} {done : List Placeholder} {p q : Placeholder} {l : Layout}

/-- If every placeholder finds only its own slots, filling in is substitution. -/
theorem render_of_finds (finds : ∀ q, l.Finds v q.earlier q) :
    render l.template v = l.substitute v := by
  have turns (ps done : List Placeholder) (order : Placeholder.all = done ++ ps) :
      fill v ps (l.draft v done) = l.draft v Placeholder.all := by
    induction ps generalizing done with
    | nil =>
      rw [order, List.append_nil]
      rfl
    | cons q ps ih =>
      have own := finds q
      rw [Placeholder.earlier_eq order] at own
      rw [fill, List.foldl_cons, replaceAll_draft_of_finds (Placeholder.not_mem_of_split order) own]
      exact ih (done ++ [q]) (by rw [order, List.append_assoc, List.singleton_append])
  rw [render_eq_fill, ← draft_nil (v := v), turns Placeholder.all [] rfl, draft_all]

end Layout

end SchemaLint
