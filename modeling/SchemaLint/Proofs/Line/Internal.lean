import SchemaLint.Line.Internal
import SchemaLint.Proofs.Line.Basic

/-!
# Compiler warnings: the parts of a reading

`WarningParts line` holds the parts that `internal` finds in a line. The file is
a word of the message, so it is a piece of the line.
-/

namespace SchemaLint.Line

open Text

/-- The parts of a line that reads as a compiler warning. -/
structure WarningParts (line : Text) where
  /-- What stands up to the bracket. -/
  head : Text
  message : Text
  file : Text
  rule : StyleRule
  isWarning : warningMark <:+: line
  divided : halves? [']'] line = some (head, message)
  named : warningFile? (trim message) = some file
  known : styleRule? (trim message) = some rule

namespace WarningParts

variable {line : Text}

/-- The record that the parts make. -/
def record (p : WarningParts line) : Record :=
  .make (.style p.rule) .compilerWarning line p.file 1 1 none

end WarningParts

/-- A line reads as a compiler warning exactly by its parts. -/
theorem internal_eq_some_iff {line : Text} {r : Record} :
    internal line = .ok (some r) ↔ ∃ p : WarningParts line, p.record = r := by
  constructor
  · intro h
    unfold internal at h
    split at h
    · cases h
    next marked =>
    rw [Bool.not_eq_true', Bool.not_eq_false] at marked
    split at h
    · cases h
    next head message divided =>
    split at h
    · cases h
    next file named =>
    obtain ⟨rule, known, h⟩ := bind_eq_ok_iff.mp h
    cases h
    exact ⟨⟨head, message, file, rule, contains_iff.mp marked, divided, named,
      styleRule_eq_ok_iff.mp known⟩, rfl⟩
  · rintro ⟨p, rfl⟩
    unfold internal
    rw [show isInternalWarning line = true from contains_iff.mpr p.isWarning, p.divided]
    simp only [Bool.not_true, Bool.false_eq_true, if_false, p.named,
      styleRule_eq_ok_iff.mpr p.known]
    rfl

namespace WarningParts

variable {line : Text} (p : WarningParts line)

/-- The file is the beginning of a word of the line. -/
theorem file_isInfix : p.file <:+: line := by
  obtain ⟨word, found, file⟩ := Option.map_eq_some_iff.mp p.named
  have message : p.message <:+: line :=
    ⟨p.head ++ [']'], [], by simpa using (cut?_eq_some (halves?_eq_some_iff.mp p.divided).1).symm⟩
  have inMessage : word <:+: trim p.message :=
    infix_of_mem_splitOnP (List.mem_filter.mp (List.mem_of_find?_eq_some found)).1
  rw [← file]
  exact (dropEnding_isPrefix _ word).isInfix.trans
    (inMessage.trans ((trimBy_isInfix _ _).trans message))

end WarningParts

end SchemaLint.Line
