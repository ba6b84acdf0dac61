import SchemaLint.Line.Basic
import SchemaLint.Proofs.Text.Numeral
import SchemaLint.Proofs.Text.Search

/-!
# What readings of lines are made of

The steps that the shapes of lines share: the steps of a reading one after the
other, the mark of a warning, the rule of a style message, and the numbers. A
position that is printed as a numeral reads back (`position_numeral`), and what
is read lies in the range of positions (`isPosition_of_position`).
-/

namespace SchemaLint.Line

open Text

/-- A reading goes through when each of its steps does. -/
theorem bind_eq_ok_iff {ε α β : Type} {x : Except ε α} {f : α → Except ε β} {b : β} :
    x >>= f = .ok b ↔ ∃ a, x = .ok a ∧ f a = .ok b := by
  cases x with
  | error e =>
    constructor
    · intro h
      cases h
    · rintro ⟨_, ⟨⟩, _⟩
  | ok a =>
    constructor
    · exact fun h => ⟨a, rfl, h⟩
    · rintro ⟨_, ⟨⟩, h⟩
      exact h

theorem isInternalWarning_eq_false_iff {line : Text} :
    isInternalWarning line = false ↔ ¬ warningMark <:+: line := contains_eq_false_iff

theorem styleRule_eq_ok_iff {message line : Text} {rule : StyleRule} :
    styleRule message line = .ok rule ↔ styleRule? message = some rule := by
  unfold styleRule
  split
  · next found => simp [found]
  · next absent => simp [absent]

/-! ## Line and column numbers -/

/-- The numbers that a position can be. -/
def IsPosition (n : Nat) : Prop := 1 ≤ n ∧ n ≤ maxWord32

instance (n : Nat) : Decidable (IsPosition n) := inferInstanceAs (Decidable (_ ∧ _))

/-- The numeral of a position reads back as the position. -/
theorem position_numeral {n : Nat} (range : IsPosition n) (line : Text) :
    position (numeral n) line = .ok n := by
  obtain ⟨k, rfl⟩ := Nat.exists_eq_add_of_le' range.1
  have number : numberUpTo? maxWord32 (numeral (k + 1)) = some (k + 1) := by
    rw [numberUpTo?, number?_numeral, Option.filter_some, if_pos (by simpa using range.2)]
  rw [position, trim, trimBy_eq_self (trimmed_numeral _), number]

/-- A number that was read is a position. -/
theorem isPosition_of_position {value line : Text} {n : Nat} (h : position value line = .ok n) :
    IsPosition n := by
  unfold position at h
  split at h
  · next k found =>
    cases h
    obtain ⟨-, bounded⟩ := Option.filter_eq_some_iff.mp found
    exact ⟨Nat.succ_pos k, by simpa using bounded⟩
  · cases h

end SchemaLint.Line
