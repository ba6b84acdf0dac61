import SchemaLint.Proofs.Template.Layout
import SchemaLint.Proofs.Text.Segments

/-!
# When filling in is substitution

Values without percent signs bring no placeholder into a template, but what they leave may
still be read wrongly: the closing sign of one slot and the opening sign of the next have a
placeholder between them if just its word stands there. The percent signs divide the draft
into segments, of which every second one is the name of a slot that is still open, and a
turn merges segments. It goes well unless its word stands between two open slots, the first
of them another one (`Layout.Bridges`, `Layout.merge_segments`). Otherwise the names of two
slots come together. Since no name begins another, what they make is no name, so no later
turn fills it in (`Layout.keeps_merge`), and its percent signs stay to the end
(`Layout.render_substitute_iff`).
-/

namespace SchemaLint

open Text

namespace Layout

variable {v : TemplateValues} {done : List Placeholder} {p q : Placeholder} {l : Layout}

/-! ## Segments of a draft -/

/-- The draft at its percent signs, from a text and some slots on: the names of the slots
that are open, with what stands between them. -/
def segments (v : TemplateValues) (done : List Placeholder) :
    Text → List (Placeholder × Text) → List Text
  | a, [] => [a]
  | a, (p, t) :: rest =>
    if p ∈ done then segments v done (a ++ p.value v ++ t) rest
    else a :: p.word :: segments v done t rest

/-- What stands between a text and the next slot that is open, if there is one. -/
def upTo (v : TemplateValues) (done : List Placeholder) :
    Text → List (Placeholder × Text) → Option Text
  | _, [] => none
  | a, (p, t) :: rest => if p ∈ done then upTo v done (a ++ p.value v ++ t) rest else some a

/-- In the turn of a placeholder, just its word stands between two slots that are open,
and the first of them is another one. -/
def Bridges (v : TemplateValues) (done : List Placeholder) (q : Placeholder)
    (slots : List (Placeholder × Text)) : Prop :=
  ∃ before p t after, slots = before ++ (p, t) :: after ∧ p ∉ done ∧ p ≠ q ∧
    upTo v done t after = some q.word

section

variable {a t : Text} {rest slots : List (Placeholder × Text)}

theorem segments_of_mem (past : p ∈ done) :
    segments v done a ((p, t) :: rest) = segments v done (a ++ p.value v ++ t) rest := if_pos past

theorem segments_of_not_mem (still : p ∉ done) :
    segments v done a ((p, t) :: rest) = a :: p.word :: segments v done t rest := if_neg still

/-- What is put in front of a text is put in front of its first segment. -/
theorem exists_segments (v : TemplateValues) (done : List Placeholder) (a : Text)
    (slots : List (Placeholder × Text)) :
    ∃ first others, ∀ b, segments v done (b ++ a) slots = (b ++ first) :: others := by
  induction slots generalizing a with
  | nil => exact ⟨a, [], fun b => rfl⟩
  | cons slot rest ih =>
    obtain ⟨p, t⟩ := slot
    by_cases past : p ∈ done
    · obtain ⟨first, others, each⟩ := ih (a ++ p.value v ++ t)
      refine ⟨first, others, fun b => ?_⟩
      rw [segments_of_mem past, ← each, List.append_assoc, List.append_assoc, List.append_assoc]
    · exact ⟨a, _, fun b => segments_of_not_mem past⟩

theorem segments_ne_nil : segments v done a slots ≠ [] := by
  obtain ⟨first, others, each⟩ := exists_segments v done a slots
  have whole := each []
  rw [List.nil_append] at whole
  rw [whole]
  exact List.cons_ne_nil _ _

/-- The draft is its segments with percent signs between them. -/
theorem draft_eq_join : draft v done ⟨a, slots⟩ = join ['%'] (segments v done a slots) := by
  induction slots generalizing a with
  | nil => simp [draft, segments, join]
  | cons slot rest ih =>
    obtain ⟨p, t⟩ := slot
    by_cases past : p ∈ done
    · rw [draft_cons, held_of_mem past, segments_of_mem past, ih]
    · rw [draft_cons, held_of_not_mem past, segments_of_not_mem past, draft_append, ih,
        join_cons (List.cons_ne_nil _ _), join_cons segments_ne_nil, p.text_eq]
      simp

theorem not_mem_segments (values : ∀ p, '%' ∉ Placeholder.value v p)
    (plain : Plain ⟨a, slots⟩) : ∀ segment ∈ segments v done a slots, '%' ∉ segment := by
  induction slots generalizing a with
  | nil => exact List.forall_mem_singleton.mpr plain.1
  | cons slot rest ih =>
    obtain ⟨p, t⟩ := slot
    obtain ⟨lead, others⟩ := plain
    obtain ⟨first, others⟩ := List.forall_mem_cons.mp others
    by_cases past : p ∈ done
    · rw [segments_of_mem past]
      exact ih ⟨by simp [lead, values p, show '%' ∉ t from first], others⟩
    · rw [segments_of_not_mem past]
      exact List.forall_mem_cons.mpr ⟨lead, List.forall_mem_cons.mpr ⟨p.not_mem_word,
        ih ⟨first, others⟩⟩⟩

/-- A slot that is merged brings the texts around it together. -/
theorem merge_own (word value : Text) :
    merge word value (a :: word :: segments v done t rest) =
      merge word value (segments v done (a ++ value ++ t) rest) := by
  obtain ⟨first, others, each⟩ := exists_segments v done t rest
  have whole := each []
  rw [List.nil_append, List.nil_append] at whole
  rw [whole, each, merge, if_pos rfl]

/-! ## Turns that go well -/

theorem not_bridges_nil : ¬ Bridges v done q [] := by
  intro bridges
  obtain ⟨before, p, t, after, slots, -⟩ := bridges
  cases before <;> cases slots

/-- A bridge begins at the first slot or after it. -/
theorem bridges_cons_iff : Bridges v done q ((p, t) :: rest) ↔
    (p ∉ done ∧ p ≠ q ∧ upTo v done t rest = some q.word) ∨ Bridges v done q rest := by
  constructor
  · intro bridges
    obtain ⟨before, p', t', after, slots, still, other, word⟩ := bridges
    cases before with
    | nil =>
      cases slots
      exact Or.inl ⟨still, other, word⟩
    | cons slot before =>
      cases slots
      exact Or.inr ⟨before, p', t', after, rfl, still, other, word⟩
  · intro either
    rcases either with ⟨still, other, word⟩ | ⟨before, p', t', after, rfl, bridge⟩
    · exact ⟨[], p, t, rest, rfl, still, other, word⟩
    · exact ⟨(p, t) :: before, p', t', after, rfl, bridge⟩

instance decidableBridges (v : TemplateValues) (done : List Placeholder) (q : Placeholder) :
    (slots : List (Placeholder × Text)) → Decidable (Bridges v done q slots)
  | [] => isFalse not_bridges_nil
  | (_, _) :: rest =>
    have := decidableBridges v done q rest
    decidable_of_iff _ bridges_cons_iff.symm

theorem upTo_of_mem (past : p ∈ done) :
    upTo v done a ((p, t) :: rest) = upTo v done (a ++ p.value v ++ t) rest := if_pos past

theorem upTo_of_not_mem (still : p ∉ done) : upTo v done a ((p, t) :: rest) = some a :=
  if_neg still

/-- A placeholder that bridges nothing merges its own slots, and so it does after the name
of a slot that stays, if its word does not follow there. -/
theorem merge_segments (still : q ∉ done) (noBridge : ¬ Bridges v done q slots) :
    merge q.word (q.value v) (segments v done a slots) = segments v (done ++ [q]) a slots ∧
      ∀ name, upTo v done a slots ≠ some q.word →
        merge q.word (q.value v) (name :: segments v done a slots) =
          name :: segments v (done ++ [q]) a slots := by
  induction slots generalizing a with
  | nil => exact ⟨merge_singleton a, fun name _ => merge_pair name a⟩
  | cons slot rest ih =>
    obtain ⟨p, t⟩ := slot
    rw [bridges_cons_iff, not_or] at noBridge
    obtain ⟨notHere, noBridge⟩ := noBridge
    by_cases past : p ∈ done
    · have past' : p ∈ done ++ [q] := List.mem_append_left _ past
      rw [segments_of_mem past, segments_of_mem past', upTo_of_mem past]
      exact ih noBridge
    have here : merge q.word (q.value v) (segments v done a ((p, t) :: rest)) =
        segments v (done ++ [q]) a ((p, t) :: rest) := by
      rw [segments_of_not_mem past]
      by_cases own : p = q
      · subst own
        rw [segments_of_mem (List.mem_append_right _ List.mem_cons_self), merge_own]
        exact (ih noBridge).1
      · have still' : p ∉ done ++ [q] := by simp [past, own]
        have word : upTo v done t rest ≠ some q.word := fun word => notHere ⟨past, own, word⟩
        rw [segments_of_not_mem still', ← (ih noBridge).2 p.word word]
        exact merge_of_ne (fun same => own (Placeholder.word_injective same)) segments_ne_nil
    refine ⟨here, fun name word => ?_⟩
    rw [upTo_of_not_mem past] at word
    rw [← here, segments_of_not_mem past, merge, if_neg (by simpa using word)]

end

/-! ## Turns that go wrong -/

/-- A text begins with the name of a placeholder. -/
def Begun (o : Text) : Prop := ∃ p : Placeholder, p.word <+: o

/-- A text begins with the name of a placeholder and goes on after it. -/
def Torn (o : Text) : Prop := ∃ p : Placeholder, ∃ t, t ≠ [] ∧ o = p.word ++ t

theorem Begun.append {o : Text} (begun : Begun o) (t : Text) : Begun (o ++ t) := by
  obtain ⟨p, begins⟩ := begun
  exact ⟨p, begins.trans (List.prefix_append o t)⟩

/-- Two names that have come together are torn. -/
theorem Begun.torn {o o' : Text} (begun : Begun o) (begun' : Begun o') (t : Text) :
    Torn (o ++ t ++ o') := by
  obtain ⟨p, u, rfl⟩ := begun
  obtain ⟨p', begins'⟩ := begun'
  refine ⟨p, u ++ t ++ o', ?_, by simp⟩
  apply List.append_ne_nil_of_right_ne_nil
  rintro rfl
  have none := List.prefix_nil.mp begins'
  cases p' <;> cases none

/-- No name of a placeholder begins another. -/
theorem not_torn_word (q : Placeholder) : ¬ Torn q.word := by
  intro torn
  obtain ⟨p, t, some, whole⟩ := torn
  have apart : ∀ p ∈ Placeholder.all, ∀ q ∈ Placeholder.all, p.word <+: q.word → p = q := by decide
  cases apart p p.mem_all q q.mem_all ⟨t, whole.symm⟩
  exact some (List.append_right_eq_self.mp whole.symm)

/-- Every second segment. -/
def seconds : List Text → List Text
  | _ :: o :: rest => o :: seconds rest
  | _ => []

theorem seconds_cons (a b : Text) (rest : List Text) : seconds (a :: rest) = seconds (b :: rest) := by
  cases rest <;> rfl

/-- Every second segment begins with a name. -/
def Named (segments : List Text) : Prop := ∀ o ∈ seconds segments, Begun o

/-- One of every second segments is torn. -/
def Clogged (segments : List Text) : Prop := ∃ o ∈ seconds segments, Torn o

theorem named_cons_cons {a o : Text} {rest : List Text} :
    Named (a :: o :: rest) ↔ Begun o ∧ Named rest := List.forall_mem_cons

theorem clogged_cons_cons {a o : Text} {rest : List Text} :
    Clogged (a :: o :: rest) ↔ Torn o ∨ Clogged rest := by
  simp [Clogged, seconds]

theorem named_cons (a b : Text) (rest : List Text) : Named (a :: rest) ↔ Named (b :: rest) := by
  rw [Named, Named, seconds_cons a b]

theorem clogged_cons (a b : Text) (rest : List Text) : Clogged (a :: rest) ↔ Clogged (b :: rest) := by
  rw [Clogged, Clogged, seconds_cons a b]

/-- Names stay names, and torn ones stay torn. -/
def Keeps (before after : List Text) : Prop :=
  Named before → Named after ∧ (Clogged before → Clogged after)

theorem keeps_cons {a b : Text} {before after : List Text} (keeps : Keeps (a :: before) (a :: after)) :
    Keeps (b :: before) (b :: after) := by
  rw [Keeps, named_cons b a, named_cons b a, clogged_cons b a, clogged_cons b a]
  exact keeps

theorem Keeps.cons_cons {before after : List Text} (keeps : Keeps before after) (a o : Text) :
    Keeps (a :: o :: before) (a :: o :: after) := by
  intro named
  obtain ⟨begun, named⟩ := named_cons_cons.mp named
  obtain ⟨named', clogged⟩ := keeps named
  refine ⟨named_cons_cons.mpr ⟨begun, named'⟩, ?_⟩
  rw [clogged_cons_cons, clogged_cons_cons]
  exact Or.imp_right clogged

/-- A turn keeps every second segment, from the first or the second one on. -/
theorem keeps_merge (q : Placeholder) (value : Text) (segments : List Text) :
    Keeps segments (merge q.word value segments) ∧
      Keeps ([] :: segments) ([] :: merge q.word value segments) := by
  induction segments using merge.induct q.word value with
  | case1 left right rest ih =>
    rw [merge, if_pos rfl]
    refine ⟨fun named => ?_, fun named => ?_⟩
    · -- The name of a slot goes, and it was not torn.
      have named' : Named ((left ++ value ++ right) :: rest) := by
        rw [named_cons _ right]
        exact (named_cons_cons.mp named).2
      refine ⟨(ih.1 named').1, fun clogged => (ih.1 named').2 ?_⟩
      rw [clogged_cons _ right]
      exact (clogged_cons_cons.mp clogged).resolve_left (not_torn_word q)
    · -- What stands between two names goes, and they come together.
      obtain ⟨begun, others⟩ := named_cons_cons.mp named
      obtain ⟨begun', others⟩ := named_cons_cons.mp others
      have torn := begun.torn begun' value
      have named' : Named ([] :: (left ++ value ++ right) :: rest) :=
        named_cons_cons.mpr ⟨(begun.append value).append right, others⟩
      exact ⟨(ih.2 named').1, fun _ => (ih.2 named').2 (clogged_cons_cons.mpr (Or.inl torn))⟩
  | case2 left inner right rest differs ih =>
    rw [merge, if_neg differs]
    exact ⟨keeps_cons ih.2, ih.1.cons_cons [] left⟩
  | case3 segments short =>
    rw [merge]
    · exact ⟨fun named => ⟨named, id⟩, fun named => ⟨named, id⟩⟩
    · exact short

section

variable {a t : Text} {rest slots : List (Placeholder × Text)}

theorem named_segments : Named (segments v done a slots) := by
  induction slots generalizing a with
  | nil => exact nofun
  | cons slot rest ih =>
    obtain ⟨p, t⟩ := slot
    by_cases past : p ∈ done
    · rw [segments_of_mem past]
      exact ih
    · rw [segments_of_not_mem past]
      exact named_cons_cons.mpr ⟨⟨p, List.prefix_refl _⟩, ih⟩

/-- A bridge tears a name, and so does the word of the placeholder after the name of a
slot that stays. -/
theorem clogged_merge :
    (Bridges v done q slots → Clogged (merge q.word (q.value v) (segments v done a slots))) ∧
      ∀ name, Begun name → upTo v done a slots = some q.word ∨ Bridges v done q slots →
        Clogged ([] :: merge q.word (q.value v) (name :: segments v done a slots)) := by
  induction slots generalizing a with
  | nil =>
    refine ⟨fun bridges => (not_bridges_nil bridges).elim, fun name _ either => ?_⟩
    rcases either with word | bridges
    · cases word
    · exact (not_bridges_nil bridges).elim
  | cons slot rest ih =>
    obtain ⟨p, t⟩ := slot
    rw [bridges_cons_iff]
    by_cases past : p ∈ done
    · rw [segments_of_mem past, upTo_of_mem past]
      have later : (p ∉ done ∧ p ≠ q ∧ upTo v done t rest = some q.word) ∨ Bridges v done q rest →
          Bridges v done q rest := fun either => either.resolve_left fun here => here.1 past
      exact ⟨fun either => ih.1 (later either),
        fun name begun either => ih.2 name begun (either.imp_right later)⟩
    have here : (p ∉ done ∧ p ≠ q ∧ upTo v done t rest = some q.word) ∨ Bridges v done q rest →
        Clogged (merge q.word (q.value v) (segments v done a ((p, t) :: rest))) := by
      intro either
      rw [segments_of_not_mem past]
      by_cases own : p = q
      · subst own
        rw [merge_own]
        exact ih.1 (either.resolve_left fun here => here.2.1 rfl)
      · rw [merge_of_ne (fun same => own (Placeholder.word_injective same)) segments_ne_nil,
          clogged_cons a []]
        exact ih.2 p.word ⟨p, List.prefix_refl _⟩ (either.imp_left fun here => here.2.2)
    refine ⟨here, fun name begun either => ?_⟩
    rw [upTo_of_not_mem past] at either
    by_cases word : a = q.word
    · rw [segments_of_not_mem past, word, merge, if_pos rfl]
      have torn := begun.torn ⟨p, List.prefix_refl p.word⟩ (q.value v)
      have named : Named ([] :: (name ++ q.value v ++ p.word) :: segments v done t rest) :=
        named_cons_cons.mpr ⟨(begun.append _).append _, named_segments⟩
      exact ((keeps_merge q _ _).2 named).2 (clogged_cons_cons.mpr (Or.inl torn))
    · have bridges := either.resolve_left fun same => word (Option.some.inj same)
      have stays : merge q.word (q.value v) (name :: segments v done a ((p, t) :: rest)) =
          name :: merge q.word (q.value v) (segments v done a ((p, t) :: rest)) := by
        rw [segments_of_not_mem past, merge_of_ne word (List.cons_ne_nil _ _)]
      rw [stays, clogged_cons_cons]
      exact Or.inr (here bridges)

end

/-! ## All turns -/

section

variable {done ps : List Placeholder} {slots : List (Placeholder × Text)} {a : Text}

/-- A turn is a merge of the segments. -/
theorem replaceAll_join_segments (values : ∀ p, '%' ∉ Placeholder.value v p) (q : Placeholder)
    {segments : List Text} (plain : ∀ segment ∈ segments, '%' ∉ segment) :
    replaceAll q.text (q.value v) (join ['%'] segments) =
      join ['%'] (merge q.word (q.value v) segments) := by
  rw [q.text_eq]
  exact replaceAll_join q.not_mem_word (values q) plain

/-- With a torn name the percent signs stay to the end. -/
theorem mem_fill_of_clogged (values : ∀ p, '%' ∉ Placeholder.value v p) (ps : List Placeholder)
    {segments : List Text} (plain : ∀ segment ∈ segments, '%' ∉ segment) (named : Named segments)
    (clogged : Clogged segments) : '%' ∈ fill v ps (join ['%'] segments) := by
  induction ps generalizing segments with
  | nil =>
    obtain ⟨o, held, -⟩ := clogged
    rcases segments with _ | ⟨first, _ | ⟨second, rest⟩⟩
    · cases held
    · cases held
    · simp [fill, join_cons]
  | cons q ps ih =>
    obtain ⟨named', clogged'⟩ := (keeps_merge q (q.value v) segments).1 named
    rw [fill, List.foldl_cons, replaceAll_join_segments values q plain]
    exact ih (not_mem_merge (values q) plain) named' (clogged' clogged)

/-- From some turn on, filling in either goes well to the end, where no placeholder
bridges anything, or one does and percent signs stay. -/
theorem fill_draft_cases (values : ∀ p, '%' ∉ Placeholder.value v p) (plain : l.Plain)
    (ps done : List Placeholder) (order : Placeholder.all = done ++ ps) :
    (fill v ps (l.draft v done) = l.substitute v ∧ ∀ q ∈ ps, ¬ Bridges v q.earlier q l.slots) ∨
      ('%' ∈ fill v ps (l.draft v done) ∧ ∃ q, Bridges v q.earlier q l.slots) := by
  obtain ⟨a, slots⟩ := l
  induction ps generalizing done with
  | nil =>
    rw [List.append_nil] at order
    refine Or.inl ⟨?_, nofun⟩
    rw [← draft_all, order]
    rfl
  | cons q ps ih =>
    have earlier := Placeholder.earlier_eq order
    have apart : ∀ segment ∈ segments v done a slots, '%' ∉ segment :=
      not_mem_segments values plain
    rw [fill, List.foldl_cons, draft_eq_join, replaceAll_join_segments values q apart]
    by_cases bridges : Bridges v q.earlier q slots
    · refine Or.inr ⟨?_, q, bridges⟩
      rw [earlier] at bridges
      exact mem_fill_of_clogged values ps (not_mem_merge (values q) apart)
        ((keeps_merge q (q.value v) _).1 named_segments).1 (clogged_merge.1 bridges)
    · have well := bridges
      rw [earlier] at well
      rw [(merge_segments (Placeholder.not_mem_of_split order) well).1, ← draft_eq_join]
      rcases ih (done ++ [q]) (by rw [order, List.append_assoc, List.singleton_append]) with
        ⟨filled, others⟩ | wrong
      · exact Or.inl ⟨filled, List.forall_mem_cons.mpr ⟨bridges, others⟩⟩
      · exact Or.inr wrong

theorem not_mem_substitute (values : ∀ p, '%' ∉ Placeholder.value v p) (plain : l.Plain) :
    '%' ∉ l.substitute v := by
  obtain ⟨lead, slots⟩ := plain
  simp only [substitute, List.mem_append, List.mem_flatMap, not_or, not_exists, not_and]
  exact ⟨lead, fun slot held => ⟨values slot.1, slots slot held⟩⟩

end

/-- Whatever the values, a template is filled in as if they were put in at once if every
placeholder finds only its own slots in its turn. Where neither the values nor the texts
between the slots hold a percent sign, it is so filled in exactly if no placeholder bridges
two slots in its turn. -/
theorem render_substitute_iff (l : Layout) (v : TemplateValues) :
    ((∀ q, l.Finds v q.earlier q) → render l.template v = l.substitute v) ∧
    (l.Plain → (∀ p, '%' ∉ Placeholder.value v p) →
      (render l.template v = l.substitute v ↔ ∀ q, ¬ Bridges v q.earlier q l.slots)) := by
  refine ⟨render_of_finds, fun plain values => ?_⟩
  have course := fill_draft_cases values plain Placeholder.all [] rfl
  rw [draft_nil, ← render_eq_fill] at course
  constructor
  · intro same q bridges
    rcases course with ⟨-, none⟩ | ⟨signs, -⟩
    · exact none q q.mem_all bridges
    · rw [same] at signs
      exact not_mem_substitute values plain signs
  · intro none
    rcases course with ⟨filled, -⟩ | ⟨-, q, bridges⟩
    · exact filled
    · exact (none q bridges).elim

/-- The values of an error at a position in a file, without a context. -/
def sampleValues (file raw : Text) : TemplateValues :=
  ⟨.compile .missingFieldNumber, raw, file, 3, 7, none⟩

/-- A template that names all values, some of them with nothing but a colon between, and a
file with a percent sign in a template that names only the file. -/
theorem render_substitute_sample :
    render "%type% %file%:%line%:%column% %context%(%raw%)" (sampleValues "a.proto" "boom") =
        "missing-field-number a.proto:3:7 (boom)" ∧
      render "%file%" (sampleValues "50%" "boom") = "50%" := by
  constructor
  · let l : Layout := ⟨[], [(.type, [' ']), (.file, [':']), (.line, [':']), (.column, [' ']),
      (.context, ['(']), (.raw, [')'])]⟩
    have values : ∀ p ∈ Placeholder.all, '%' ∉ p.value (sampleValues "a.proto" "boom") := by decide
    have none : ∀ q ∈ Placeholder.all,
        ¬ Bridges (sampleValues "a.proto" "boom") q.earlier q l.slots := by
      decide
    exact ((render_substitute_iff l _).2 (by decide) fun p => values p p.mem_all).mpr
      fun q => none q q.mem_all
  · let l : Layout := ⟨[], [(.file, [])]⟩
    refine (render_substitute_iff l (sampleValues "50%" "boom")).1 fun q x y whole => ?_
    have lengths := congrArg List.length whole
    simp only [List.length_append] at lengths
    by_cases own : q = .file
    · subst own
      have total : (l.draft (sampleValues "50%" "boom") (Placeholder.earlier .file)).length = 6 := by
        decide
      have single : (Placeholder.text .file).length = 6 := by decide
      exact ⟨[], [], [], rfl, Nat.zero_le _, by simp [draft]; omega⟩
    · -- The file is filled in by then, and three characters hold no placeholder.
      have total : ∀ q ∈ Placeholder.all, q ≠ .file →
          (l.draft (sampleValues "50%" "boom") q.earlier).length < q.text.length := by
        decide
      have := total q q.mem_all own
      omega

/-- A file named after a later placeholder, and the word of a placeholder between two slots.
Neither template is filled in as if all values were put in at once. -/
theorem render_ne_substitute :
    let named : Layout := ⟨[], [(.file, [])]⟩
    let bridged : Layout := ⟨[], [(.raw, "file"), (.raw, [])]⟩
    (named.Plain ∧ named.template = "%file%" ∧
      named.substitute (sampleValues "%raw%" "boom") = "%raw%" ∧
      render named.template (sampleValues "%raw%" "boom") = "boom") ∧
    bridged.Plain ∧ bridged.template = "%raw%file%raw%" ∧
      bridged.substitute (sampleValues ['a'] ['x']) = "xfilex" ∧
      render bridged.template (sampleValues ['a'] ['x']) = "%rawaraw%" := by
  decide

end Layout

end SchemaLint
