import Mathlib.Data.List.Induction
import SchemaLint.Proofs.Text.Numeral

/-!
# The spellings of a number

A number may be spelled with a plus sign and with leading zeros (`spelling`), and these
are all the texts that read as it (`number?_eq_some_iff`): digits are zeros in front of
the numeral of their value (`exists_zeros`), so a text of any length has exactly one value
or none, and none only if it is not a sign and digits (`number?_eq_none_iff`).

Reading digit by digit in words of 32 bits, and giving up at the digit where a product or a
sum does not fit, comes to the same as comparing the value afterwards
(`wordNumber?_eq_some_iff`): values only grow on the way, so what has not fitted once does
not fit in the end.
-/

namespace SchemaLint.Text

variable {t digits : Text} {n : Nat}

/-- A number as it may be spelled: with a plus sign or without, with zeros in front of its
numeral. -/
def spelling (plus : Bool) (zeros n : Nat) : Text :=
  (if plus then ['+'] else []) ++ (List.replicate zeros '0' ++ numeral n)

/-- A text that consists of ASCII digits, at least one. -/
def IsDigits (digits : Text) : Prop := digits ≠ [] ∧ ∀ d ∈ digits, '0' ≤ d ∧ d ≤ '9'

/-- A text that consists of at most one plus sign and then of ASCII digits. -/
def IsSpelling (t : Text) : Prop := IsDigits t ∨ ∃ digits, t = '+' :: digits ∧ IsDigits digits

theorem isDigit_iff {c : Char} : c.isDigit = true ↔ '0' ≤ c ∧ c ≤ '9' := by
  simp only [Char.isDigit, Bool.and_eq_true, decide_eq_true_eq]
  rfl

theorem isDigits_iff : IsDigits t ↔ t.isEmpty = false ∧ t.all Char.isDigit = true := by
  simp only [IsDigits, List.isEmpty_eq_false_iff, List.all_eq_true, isDigit_iff]

/-! ## Digits and their value -/

theorem digitsValue_concat (digits : Text) (d : Char) :
    digitsValue (digits ++ [d]) = 10 * digitsValue digits + (d.toNat - '0'.toNat) := by
  rw [digitsValue, List.foldl_append]
  rfl

/-- Zeros in front of digits do not count. -/
theorem digitsValue_zeros (zeros : Nat) (digits : Text) :
    digitsValue (List.replicate zeros '0' ++ digits) = digitsValue digits := by
  induction zeros with
  | zero => rfl
  | succ zeros ih =>
    rw [List.replicate_succ, List.cons_append]
    exact ih

theorem isDigits_zeros (zeros n : Nat) : IsDigits (List.replicate zeros '0' ++ numeral n) := by
  constructor
  · exact List.append_ne_nil_of_right_ne_nil _ Nat.toDigits_ne_nil
  · intro d held
    rcases List.mem_append.mp held with zero | digit
    · rw [List.eq_of_mem_replicate zero]
      decide
    · exact isDigit_iff.mp (isDigit_of_mem_numeral digit)

/-- The numeral of a digit is the digit. -/
theorem numeral_digit {d : Char} (digit : '0' ≤ d ∧ d ≤ '9') :
    d.toNat - '0'.toNat < 10 ∧ numeral (d.toNat - '0'.toNat) = [d] := by
  have low : 48 ≤ d.toNat := UInt32.le_iff_toNat_le.mp digit.1
  have high : d.toNat ≤ 57 := UInt32.le_iff_toNat_le.mp digit.2
  have zero : '0'.toNat = 48 := rfl
  have small : d.toNat - '0'.toNat < 10 := by omega
  have each : ∀ m < 10, m.digitChar.toNat = m + 48 := by decide
  have same : (d.toNat - '0'.toNat).digitChar = d := by
    apply Char.toNat_inj.mp
    rw [each _ small]
    omega
  refine ⟨small, ?_⟩
  rw [numeral, Nat.toDigits_of_lt_base small, same]

theorem numeral_mul_ten_add {v d : Nat} (positive : 0 < v) (small : d < 10) :
    numeral (10 * v + d) = numeral v ++ numeral d := by
  have front : (10 * v + d) / 10 = v := by omega
  have last : (10 * v + d) % 10 = d := by omega
  rw [numeral, Nat.toDigits_of_base_le (by decide) (by omega), front, last, numeral, numeral,
    Nat.toDigits_of_lt_base small]

/-- Digits are zeros in front of the numeral of their value. -/
theorem exists_zeros (isDigits : IsDigits digits) :
    ∃ zeros, digits = List.replicate zeros '0' ++ numeral (digitsValue digits) := by
  rcases isDigits with ⟨ne, each⟩
  induction digits using List.reverseRecOn with
  | nil => exact (ne rfl).elim
  | append_singleton digits d ih =>
    rcases List.forall_mem_append.mp each with ⟨front, last⟩
    obtain ⟨small, digit⟩ := numeral_digit (last d List.mem_cons_self)
    rw [digitsValue_concat]
    by_cases none : digits = []
    · subst none
      refine ⟨0, ?_⟩
      rw [digitsValue, List.foldl_nil, Nat.mul_zero, Nat.zero_add, digit]
      rfl
    obtain ⟨zeros, whole⟩ := ih none front
    -- A value of zero has a numeral of its own, which becomes one more zero in front.
    by_cases positive : 0 < digitsValue digits
    · refine ⟨zeros, ?_⟩
      rw [numeral_mul_ten_add positive small, digit, ← List.append_assoc, ← whole]
    · have zero : digitsValue digits = 0 := by omega
      refine ⟨zeros + 1, ?_⟩
      rw [zero] at whole ⊢
      rw [Nat.mul_zero, Nat.zero_add, digit, List.replicate_succ', whole]
      rfl

/-! ## Reading a number -/

theorem dropPlus_of_isDigits (isDigits : IsDigits digits) : dropPlus digits = digits := by
  apply dropPlus_eq_self
  intro held
  exact absurd (isDigits.2 '+' held) (by decide)

/-- A text that reads as a number is a sign and digits of this value. -/
theorem number?_eq_some_iff_digits :
    number? t = some n ↔ IsDigits (dropPlus t) ∧ digitsValue (dropPlus t) = n := by
  simp only [number?]
  rw [Option.ite_none_right_eq_some, isDigits_iff, Bool.and_eq_true, Bool.not_eq_true',
    Option.some.injEq]

theorem isSpelling_iff : IsSpelling t ↔ IsDigits (dropPlus t) := by
  constructor
  · intro spelled
    rcases spelled with isDigits | ⟨digits, rfl, isDigits⟩
    · rwa [dropPlus_of_isDigits isDigits]
    · exact isDigits
  · intro isDigits
    unfold dropPlus at isDigits
    split at isDigits
    · exact Or.inr ⟨_, rfl, isDigits⟩
    · exact Or.inl isDigits

/-- A text that is not a sign and digits reads as no number, and no other does. -/
theorem number?_eq_none_iff : number? t = none ↔ ¬ IsSpelling t := by
  rw [isSpelling_iff, Option.eq_none_iff_forall_ne_some]
  constructor
  · intro absent isDigits
    exact absent _ (number?_eq_some_iff_digits.mpr ⟨isDigits, rfl⟩)
  · intro shapeless n read
    exact shapeless (number?_eq_some_iff_digits.mp read).1

theorem number?_spelling (plus : Bool) (zeros n : Nat) :
    number? (spelling plus zeros n) = some n := by
  have isDigits := isDigits_zeros zeros n
  have dropped : dropPlus (spelling plus zeros n) = List.replicate zeros '0' ++ numeral n := by
    cases plus with
    | true => rfl
    | false => exact dropPlus_of_isDigits isDigits
  rw [number?_eq_some_iff_digits, dropped, digitsValue_zeros, digitsValue_numeral]
  exact ⟨isDigits, rfl⟩

/-- The texts that read as a number are its spellings. -/
theorem number?_eq_some_iff : number? t = some n ↔ ∃ plus zeros, t = spelling plus zeros n := by
  constructor
  · intro read
    obtain ⟨isDigits, value⟩ := number?_eq_some_iff_digits.mp read
    obtain ⟨zeros, whole⟩ := exists_zeros isDigits
    rw [value] at whole
    unfold dropPlus at whole
    split at whole
    · exact ⟨true, zeros, congrArg _ whole⟩
    · exact ⟨false, zeros, whole⟩
  · intro spelled
    obtain ⟨plus, zeros, rfl⟩ := spelled
    exact number?_spelling plus zeros n

/-- A spelling has no blank at an end. -/
theorem trimmed_spelling (plus : Bool) (zeros n : Nat) :
    Trimmed isBlankChar (spelling plus zeros n) := by
  have digits : Trimmed isBlankChar (List.replicate zeros '0' ++ numeral n) :=
    .of_all fun d held =>
      isBlankChar_of_isDigit (isDigit_iff.mpr ((isDigits_zeros zeros n).2 d held))
  have sign : Trimmed isBlankChar (if plus then ['+'] else []) := by
    cases plus <;> decide
  exact sign.append digits

/-! ## Reading in words of 32 bits -/

/-- A number as a word, unless it does not fit. -/
def word? (n : Nat) : Option UInt32 := if n < UInt32.size then some (UInt32.ofNat n) else none

/-- A word with one more digit behind it, unless the product or the sum does not fit. -/
def pushDigit? (w : UInt32) (d : Char) : Option UInt32 :=
  (word? (w.toNat * 10)).bind fun tens => word? (tens.toNat + (d.toNat - '0'.toNat))

/-- Reads an optional plus sign and ASCII digits in words. -/
def wordNumber? (t : Text) : Option UInt32 :=
  let digits := dropPlus t
  if !digits.isEmpty && digits.all Char.isDigit then digits.foldlM pushDigit? 0 else none

theorem word?_eq_some_iff {w : UInt32} : word? n = some w ↔ w.toNat = n := by
  unfold word?
  rw [Option.ite_none_right_eq_some, Option.some.injEq]
  constructor
  · rintro ⟨fits, rfl⟩
    exact UInt32.toNat_ofNat_of_lt' fits
  · rintro rfl
    exact ⟨w.toNat_lt, UInt32.ofNat_toNat⟩

theorem word?_eq_none_iff : word? n = none ↔ UInt32.size ≤ n := by
  unfold word?
  rw [ite_eq_right_iff]
  constructor
  · intro absent
    apply Nat.le_of_not_lt
    intro fits
    cases absent fits
  · intro tooGreat fits
    exact absurd fits (Nat.not_lt.mpr tooGreat)

/-- Digits read in words give their value if it fits. A value that does not fit has stopped the
reading at some digit. -/
theorem foldlM_pushDigit? (digits : Text) :
    digits.foldlM pushDigit? 0 = word? (digitsValue digits) := by
  induction digits using List.reverseRecOn with
  | nil => rfl
  | append_singleton digits d ih =>
    rw [List.foldlM_append, ih, digitsValue_concat]
    cases front : word? (digitsValue digits) with
    | none =>
      have tooGreat := word?_eq_none_iff.mp front
      exact (word?_eq_none_iff.mpr (by omega)).symm
    | some w =>
      rw [← word?_eq_some_iff.mp front]
      show (pushDigit? w d).bind some = _
      rw [Option.bind_fun_some, pushDigit?, Nat.mul_comm]
      cases product : word? (10 * w.toNat) with
      | none =>
        have tooGreat := word?_eq_none_iff.mp product
        exact (word?_eq_none_iff.mpr (by omega)).symm
      | some tens => rw [Option.bind_some, word?_eq_some_iff.mp product]

/-- Reading in words gives exactly the numbers of at most 32 bits. -/
theorem wordNumber?_eq_some_iff {w : UInt32} :
    wordNumber? t = some w ↔ numberUpTo? maxWord32 t = some w.toNat := by
  have fits : w.toNat ≤ maxWord32 := Nat.le_of_lt_succ w.toNat_lt
  rw [numberUpTo?, Option.filter_eq_some_iff, number?_eq_some_iff_digits, decide_eq_true_eq,
    isDigits_iff]
  simp only [wordNumber?]
  rw [Option.ite_none_right_eq_some, Bool.and_eq_true, Bool.not_eq_true', foldlM_pushDigit?,
    word?_eq_some_iff]
  constructor
  · intro read
    exact ⟨⟨read.1, read.2.symm⟩, fits⟩
  · intro read
    exact ⟨read.1.1, read.1.2.symm⟩

end SchemaLint.Text
