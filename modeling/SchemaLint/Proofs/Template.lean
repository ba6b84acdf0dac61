import SchemaLint.Record
import SchemaLint.Proofs.Text.Replace
import SchemaLint.Proofs.Text.Unique

/-!
# Templates with one placeholder

A placeholder is a word between percent signs, so in a text that has no other
percent signs it occurs once and no other placeholder occurs. `render_around`
fills it in: the text around it stays, provided that the value holds no percent
sign either. Every kind's template has at most one placeholder, `Kind.slot?`,
and `Kind.lead` and `Kind.trail` stand around it.
-/

namespace SchemaLint

open Text

namespace Placeholder

/-- The name of a placeholder, without its percent signs. -/
def word : Placeholder → Text
  | file => "file"
  | line => "line"
  | column => "column"
  | context => "context"
  | type => "type"
  | raw => "raw"

theorem text_eq (p : Placeholder) : p.text = '%' :: (p.word ++ ['%']) := by
  cases p <;> rfl

theorem not_mem_word (p : Placeholder) : '%' ∉ p.word := by
  cases p <;> decide

/-- Placeholders are told apart by their names. -/
theorem word_injective {p q : Placeholder} (same : p.word = q.word) : p = q := by
  have found (p : Placeholder) : all.find? (fun r => r.word == p.word) = some p := by
    cases p <;> rfl
  exact Option.some.inj ((found p).symm.trans (same ▸ found q))

theorem mem_all (p : Placeholder) : p ∈ all := by
  cases p <;> decide

variable {p : Placeholder} {lead trail t : Text}

theorem not_infix_of_plain (plain : '%' ∉ t) : ¬ p.text <:+: t := by
  rw [text_eq]
  exact not_infix_of_not_mem List.mem_cons_self plain

/-- Around a placeholder, in a text with no other percent signs, no other
placeholder occurs. -/
theorem eq_of_isInfix {q : Placeholder} (noLead : '%' ∉ lead) (noTrail : '%' ∉ trail)
    (occurs : q.text <:+: lead ++ p.text ++ trail) : q = p := by
  obtain ⟨a, b, whole⟩ := occurs
  have counts := congrArg (List.count '%') whole
  simp only [text_eq, List.count_append, List.count_cons_self, List.count_nil,
    List.count_eq_zero.mpr noLead, List.count_eq_zero.mpr noTrail,
    List.count_eq_zero.mpr p.not_mem_word, List.count_eq_zero.mpr q.not_mem_word] at counts
  -- Both percent signs belong to the one occurrence, so its name is the name between them.
  have noBefore : '%' ∉ a := List.count_eq_zero.mp (by omega)
  rw [text_eq, text_eq, List.append_assoc, List.append_assoc, List.cons_append,
    List.cons_append, List.append_assoc, List.append_assoc] at whole
  obtain ⟨-, rest⟩ := append_cons_inj noBefore noLead whole
  exact word_injective (append_cons_inj q.not_mem_word p.not_mem_word rest).1

end Placeholder

/-! ## Filling a template in -/

/-- The placeholders of a list filled in, one after the other. -/
def fill (v : TemplateValues) (ps : List Placeholder) (t : Text) : Text :=
  ps.foldl (fun t p => replaceAll p.text (p.value v) t) t

theorem fill_eq_self {v : TemplateValues} {t : Text} (plain : '%' ∉ t) (ps : List Placeholder) :
    fill v ps t = t := by
  induction ps with
  | nil => rfl
  | cons p ps ih =>
    rw [fill, List.foldl_cons, replaceAll_eq_self (Placeholder.not_infix_of_plain plain)]
    exact ih

/-- One placeholder of the list is filled in, the others find nothing. -/
theorem fill_around {v : TemplateValues} {p : Placeholder} {lead trail : Text}
    (noLead : '%' ∉ lead) (noTrail : '%' ∉ trail) (plain : '%' ∉ p.value v)
    {ps : List Placeholder} (held : p ∈ ps) :
    fill v ps (lead ++ p.text ++ trail) = lead ++ p.value v ++ trail := by
  induction ps with
  | nil => cases held
  | cons q ps ih =>
    rw [fill, List.foldl_cons]
    by_cases same : q = p
    · subst same
      have first : ¬ q.text <:+: lead ++ q.text.dropLast := by
        rw [q.text_eq, cons_infix_append_iff noLead]
        intro occurs
        have shorter := occurs.length_le
        simp only [List.length_cons, List.length_append, List.length_dropLast] at shorter
        omega
      rw [replaceAll_append (by simp [q.text_eq]) first (Placeholder.not_infix_of_plain noTrail)]
      refine fill_eq_self ?_ ps
      simp [noLead, noTrail, plain]
    · have absent : ¬ q.text <:+: lead ++ p.text ++ trail :=
        fun occurs => same (Placeholder.eq_of_isInfix noLead noTrail occurs)
      rw [replaceAll_eq_self absent]
      exact ih (List.mem_of_ne_of_mem (Ne.symm same) held)

theorem render_eq_fill {v : TemplateValues} (template : Text) :
    render template v = fill v Placeholder.all template := by
  unfold render
  split
  · rfl
  · next plain => rw [fill_eq_self (by simpa using plain)]

/-- A template without percent signs is its own text. -/
theorem render_eq_self {template : Text} (plain : '%' ∉ template) (v : TemplateValues) :
    render template v = template := by
  rw [render_eq_fill, fill_eq_self plain]

/-- A template with one placeholder is the value with the text around it. -/
theorem render_around {v : TemplateValues} {p : Placeholder} {lead trail : Text}
    (noLead : '%' ∉ lead) (noTrail : '%' ∉ trail) (plain : '%' ∉ p.value v) :
    render (lead ++ p.text ++ trail) v = lead ++ p.value v ++ trail := by
  rw [render_eq_fill, fill_around noLead noTrail plain p.mem_all]

/-! ## The templates of the kinds -/

namespace Kind

/-- The placeholder in the template of a kind, if it has one. -/
def slot? : Kind → Option Placeholder
  | .style .syntaxUnspecified => some .file
  | .compile .fileNotFound => some .file
  | .compile .importUnresolved => some .context
  | .compile .symbolNotDefined => some .context
  | .compile .unexpectedToken => some .context
  | _ => none

/-- No template names the raw line. -/
theorem ne_raw_of_slot {k : Kind} {p : Placeholder} (slot : k.slot? = some p) : p ≠ .raw := by
  cases k with
  | style rule =>
    cases rule <;> cases slot
    decide
  | compile error => cases error <;> cases slot <;> decide

/-- The template up to its placeholder. -/
def lead (k : Kind) : Text := before '%' k.profile.template

/-- The template after its placeholder. -/
def trail (k : Kind) : Text :=
  (((after? '%' k.profile.template).bind (after? '%')).getD [])

/-- A template without a placeholder is plain. -/
theorem plain_template {k : Kind} (slot : k.slot? = none) : '%' ∉ k.profile.template := by
  have plain : ∀ k ∈ all, k.slot? = none → '%' ∉ k.profile.template := by decide +kernel
  exact plain k k.mem_all slot

/-- A template with a placeholder is plain around it. -/
theorem template_eq {k : Kind} {p : Placeholder} (slot : k.slot? = some p) :
    k.profile.template = k.lead ++ p.text ++ k.trail ∧ '%' ∉ k.lead ∧ '%' ∉ k.trail := by
  cases k with
  | style rule =>
    cases rule <;> cases slot
    decide
  | compile error => cases error <;> cases slot <;> decide

end Kind

namespace Record

variable {r : Record}

/-- The values that the message of a record is made from. -/
def values (r : Record) : TemplateValues :=
  ⟨r.kind, r.raw, r.file, r.line, r.column, r.context⟩

/-- A message whose template has no placeholder. -/
theorem message_eq_template (made : r.message = render r.kind.profile.template r.values)
    (slot : r.kind.slot? = none) : r.message = r.kind.profile.template := by
  rw [made, render_eq_self (Kind.plain_template slot)]

/-- A message whose template has a placeholder for a value without percent
signs. -/
theorem message_eq_around (made : r.message = render r.kind.profile.template r.values)
    {p : Placeholder} (slot : r.kind.slot? = some p) (plain : '%' ∉ p.value r.values) :
    r.message = r.kind.lead ++ p.value r.values ++ r.kind.trail := by
  obtain ⟨template, noLead, noTrail⟩ := Kind.template_eq slot
  rw [made, template, render_around noLead noTrail plain]

end Record

end SchemaLint
