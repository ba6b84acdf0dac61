import SchemaLint.Text.Numeral
import SchemaLint.Proofs.Text.Blank

/-!
# Numerals

A numeral reads back as its number (`number?_numeral`), so numerals are told
apart (`numeral_injective`). It holds digits only, hence no delimiter of a line
and no blank, and no zero stands in front of others (`numeral_eq_cons`).
-/

namespace SchemaLint.Text

theorem isDigit_of_mem_numeral {n : Nat} {c : Char} (h : c ∈ numeral n) : c.isDigit = true :=
  Nat.isDigit_of_mem_toDigits (by decide) (by decide) h

/-- A character that is no digit stands in no numeral. -/
theorem not_mem_numeral {c : Char} (n : Nat) (h : c.isDigit = false) : c ∉ numeral n :=
  fun held => by simp [isDigit_of_mem_numeral held] at h

theorem digitsValue_numeral (n : Nat) : digitsValue (numeral n) = n :=
  Nat.ofDigitChars_ten_toDigits

/-- A text that begins with a digit has no sign to drop. -/
theorem dropPlus_eq_self {t : Text} (h : '+' ∉ t) : dropPlus t = t := by
  unfold dropPlus
  split
  · exact (h List.mem_cons_self).elim
  · rfl

/-- A numeral reads back as its number. -/
theorem number?_numeral (n : Nat) : number? (numeral n) = some n := by
  have digits : (numeral n).all Char.isDigit = true :=
    List.all_eq_true.mpr fun _ held => isDigit_of_mem_numeral held
  have ne : (numeral n).isEmpty = false := by
    rw [List.isEmpty_eq_false_iff]
    exact Nat.toDigits_ne_nil
  simp only [number?, dropPlus_eq_self (not_mem_numeral n (by decide)), ne, digits,
    digitsValue_numeral, Bool.not_false, Bool.and_self, if_true]

/-- A numeral of a positive number has no zero in front. -/
theorem numeral_eq_cons {n : Nat} (positive : 0 < n) :
    ∃ digit digits, numeral n = digit :: digits ∧ digit ≠ '0' := by
  induction n using Nat.strongRecOn with
  | ind n ih =>
    by_cases small : n < 10
    · have leads : ∀ m < 10, 0 < m → m.digitChar ≠ '0' := by decide
      exact ⟨_, [], Nat.toDigits_of_lt_base small, leads n small positive⟩
    · obtain ⟨digit, digits, front, leads⟩ := ih (n / 10) (by omega) (by omega)
      refine ⟨digit, digits ++ [(n % 10).digitChar], ?_, leads⟩
      unfold numeral at front ⊢
      rw [Nat.toDigits_of_base_le (by decide) (by omega), front]
      rfl

theorem numeral_injective {m n : Nat} (h : numeral m = numeral n) : m = n := by
  rw [← digitsValue_numeral m, h, digitsValue_numeral]

theorem isBlankChar_of_isDigit {c : Char} (h : c.isDigit = true) : isBlankChar c = false := by
  simp only [Char.isDigit, Bool.and_eq_true, decide_eq_true_eq] at h
  have low : 48 ≤ c.toNat := UInt32.le_iff_toNat_le.mp h.1
  have high : c.toNat ≤ 57 := UInt32.le_iff_toNat_le.mp h.2
  simp only [isBlankChar, blankRanges, List.any_cons, List.any_nil, Bool.or_false,
    Bool.or_eq_false_iff, Bool.and_eq_false_iff, decide_eq_false_iff_not]
  omega

/-- No numeral has a blank at an end. -/
theorem trimmed_numeral (n : Nat) : Trimmed isBlankChar (numeral n) :=
  .of_all fun _ held => isBlankChar_of_isDigit (isDigit_of_mem_numeral held)

end SchemaLint.Text
