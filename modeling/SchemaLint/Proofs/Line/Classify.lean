import SchemaLint.Proofs.Line.Compile
import SchemaLint.Proofs.Line.Internal
import SchemaLint.Proofs.Line.Style

/-!
# Which shape a record comes from

A line that is classified was read by one of the three shapes, and the origin of
the record says by which. Line and column of the record are positions, whichever it
was (`isPosition_of_classify`).
-/

namespace SchemaLint.Line

variable {line : Text} {r : Record}

/-- A record that was classified was read by one of the shapes. -/
theorem shape_of_classify (h : classify line = .ok r) :
    style line = .ok (some r) ∨ compile line = .ok (some r) ∨ internal line = .ok (some r) := by
  unfold classify at h
  obtain ⟨styled, style, h⟩ := bind_eq_ok_iff.mp h
  cases styled with
  | some read =>
    cases h
    exact Or.inl style
  | none =>
    obtain ⟨compiled, compile, h⟩ := bind_eq_ok_iff.mp h
    cases compiled with
    | some read =>
      cases h
      exact Or.inr (Or.inl compile)
    | none =>
      obtain ⟨warned, internal, h⟩ := bind_eq_ok_iff.mp h
      cases warned with
      | some read =>
        cases h
        exact Or.inr (Or.inr internal)
      | none => cases h

/-- A record that was classified has the parts of the shape its origin names. -/
theorem parts_of_classify (h : classify line = .ok r) :
    (r.origin = .plugin ∧ ∃ p : StyleParts line, p.record = r) ∨
      (r.origin = .compiler ∧ ∃ p : CompileParts line, p.record = r) ∨
      (r.origin = .compilerWarning ∧ ∃ p : WarningParts line, p.record = r) := by
  rcases shape_of_classify h with read | read | read
  · obtain ⟨p, rfl⟩ := style_eq_some_iff.mp read
    exact Or.inl ⟨rfl, p, rfl⟩
  · obtain ⟨p, rfl⟩ := compile_eq_some_iff.mp read
    exact Or.inr (Or.inl ⟨rfl, p, rfl⟩)
  · obtain ⟨p, rfl⟩ := internal_eq_some_iff.mp read
    exact Or.inr (Or.inr ⟨rfl, p, rfl⟩)

/-- A line that was classified is not blank, for its shape has a mark in it. -/
theorem isBlank_of_classify (h : classify line = .ok r) : Text.isBlank line = false := by
  cases blank : Text.isBlank line with
  | false => rfl
  | true =>
    rcases parts_of_classify h with ⟨-, p, -⟩ | ⟨-, p, -⟩ | ⟨-, p, -⟩
    · have delimiter : styleDelimiter <:+: line := ⟨p.head, p.message, p.line_eq.symm⟩
      exact absurd (Text.isBlank_of_infix delimiter blank) (by decide)
    · have delimiter : compileDelimiter <:+: line := ⟨p.locator, p.message, p.line_eq.symm⟩
      exact absurd (Text.isBlank_of_infix delimiter blank) (by decide)
    · exact absurd (Text.isBlank_of_infix p.isWarning blank) (by decide)

theorem isPosition_of_positionOrOne {value : Option Text} {n : Nat}
    (read : positionOrOne value line = .ok n) : IsPosition n := by
  cases value with
  | none =>
    cases read
    decide
  | some value => exact isPosition_of_position read

/-- Line and column of a record that was classified are positions. -/
theorem isPosition_of_classify (h : classify line = .ok r) :
    IsPosition r.line ∧ IsPosition r.column := by
  rcases parts_of_classify h with ⟨-, p, rfl⟩ | ⟨-, p, rfl⟩ | ⟨-, p, rfl⟩
  · exact ⟨isPosition_of_position p.lineRead, isPosition_of_position p.columnRead⟩
  · exact ⟨isPosition_of_positionOrOne p.lineRead, isPosition_of_positionOrOne p.columnRead⟩
  · have first : IsPosition 1 := by decide
    exact ⟨first, first⟩

end SchemaLint.Line
