import SchemaLint.Json.Printer
import SchemaLint.Json.Token
import SchemaLint.Proofs.Text.Numeral

/-!
# Written tokens are read back

A string between its quotes is read as it was before it was escaped, whatever
characters it holds (`readString_escaped`), and a whole number of 64 bits is read
exactly, as long as what follows does not go on with it (`readUnsigned_numeral`).
A text that spells tokens gives them in front of those of the text after it
(`Spells`); such texts are put together at the marks of arrays and objects.
-/

namespace SchemaLint

namespace Json

/-! ## Strings -/

/-- A unit that is a character by itself. -/
def Unit16.IsChar (unit : Unit16) (c : Char) : Prop :=
  unit = .char c ∨ unit = .code c.toNat ∧ c.toNat < 32

theorem joinUnits_cons {unit : Unit16} {c : Char} {units : List Unit16} (is : unit.IsChar c) :
    joinUnits (unit :: units) = (joinUnits units).map (c :: ·) := by
  rcases is with rfl | ⟨rfl, small⟩
  · rfl
  · have high : isHighSurrogate c.toNat = false := by
      simp only [isHighSurrogate, Bool.and_eq_false_iff, decide_eq_false_iff_not]
      omega
    have low : isLowSurrogate c.toNat = false := by
      simp only [isLowSurrogate, Bool.and_eq_false_iff, decide_eq_false_iff_not]
      omega
    have same : Char.ofNat c.toNat = c := Char.ofNat_toNat c
    cases units with
    | nil => simp [joinUnits, high, low, same]
    | cons next units => simp [joinUnits, high, low, same]

theorem hexNumber?_hex4 : ∀ n < 32, Text.hexNumber? (hex4 n) = some n := by decide

/-- An escaped character is read as a unit. -/
theorem stringUnits_escapeChar (c : Char) : ∃ unit : Unit16, unit.IsChar c ∧
    ∀ rest, stringUnits (escapeChar c ++ rest) = unitThen unit (stringUnits rest) := by
  have ofNat {n : Nat} (same : (c.toNat == n) = true) : Char.ofNat n = c := by
    rw [← eq_of_beq same]
    exact Char.ofNat_toNat c
  unfold escapeChar
  split
  · exact ⟨.char _, Or.inl rfl, fun rest => rfl⟩
  · exact ⟨.char _, Or.inl rfl, fun rest => rfl⟩
  · exact ⟨.char _, Or.inl rfl, fun rest => rfl⟩
  · exact ⟨.char _, Or.inl rfl, fun rest => rfl⟩
  · exact ⟨.char _, Or.inl rfl, fun rest => rfl⟩
  · next quote backslash _ _ _ =>
    split
    · next same => exact ⟨.char _, Or.inl (congrArg _ (ofNat same)), fun rest => rfl⟩
    split
    · next same => exact ⟨.char _, Or.inl (congrArg _ (ofNat same)), fun rest => rfl⟩
    split
    · next small =>
      refine ⟨.code c.toNat, Or.inr ⟨rfl, small⟩, fun rest => ?_⟩
      have digits := hexNumber?_hex4 c.toNat small
      unfold hex4 at digits ⊢
      simp only [List.map_cons, List.map_nil, List.cons_append, List.nil_append] at digits ⊢
      rw [stringUnits, digits]
      rfl
    · next large =>
      refine ⟨.char c, Or.inl rfl, fun rest => ?_⟩
      rw [List.singleton_append, stringUnits, if_neg large]
      · exact quote
      · exact fun _ _ _ _ _ mark _ => backslash mark
      · exact fun _ _ mark _ => backslash mark

theorem stringUnits_escaped (t rest : Text) : ∃ units,
    stringUnits (t.flatMap escapeChar ++ '"' :: rest) = some (units, rest) ∧
      joinUnits units = some t := by
  induction t with
  | nil => exact ⟨[], rfl, rfl⟩
  | cons c t ih =>
    obtain ⟨units, read, joined⟩ := ih
    obtain ⟨unit, is, reads⟩ := stringUnits_escapeChar c
    refine ⟨unit :: units, ?_, ?_⟩
    · rw [List.flatMap_cons, List.append_assoc, reads, read]
      rfl
    · rw [joinUnits_cons is, joined]
      rfl

/-- A written string is read back. -/
theorem readString_escaped (t rest : Text) :
    readString (t.flatMap escapeChar ++ '"' :: rest) = some (t, rest) := by
  obtain ⟨units, read, joined⟩ := stringUnits_escaped t rest
  rw [readString, read, Option.bind_some, joined]
  rfl

/-! ## Numbers -/

/-- A character that cannot stand in a number after its first digit. -/
def EndsNumber (c : Char) : Prop := c.isDigit = false ∧ c ≠ '.' ∧ c ≠ 'e' ∧ c ≠ 'E'

instance (c : Char) : Decidable (EndsNumber c) := inferInstanceAs (Decidable (_ ∧ _))

/-- A text that does not go on with a number in front of it. -/
def Bounded (t : Text) : Prop := ∀ c ∈ t.head?, EndsNumber c

theorem Bounded.nil : Bounded [] := fun _ held => nomatch held

theorem Bounded.cons {c : Char} {t : Text} (ends : EndsNumber c) : Bounded (c :: t) := by
  intro d held
  cases held
  exact ends

theorem le_foldl_digits (digits : Text) (n : Nat) :
    n ≤ digits.foldl (fun value d => 10 * value + (d.toNat - '0'.toNat)) n := by
  induction digits generalizing n with
  | nil => exact Nat.le_refl n
  | cons d digits ih =>
    have := ih (10 * n + (d.toNat - '0'.toNat))
    rw [List.foldl_cons]
    omega

theorem absorbDigits_eq {digits : Text} {n : Nat}
    (fits : digits.foldl (fun value d => 10 * value + (d.toNat - '0'.toNat)) n ≤ Text.maxWord64) :
    absorbDigits n digits =
      (digits.foldl (fun value d => 10 * value + (d.toNat - '0'.toNat)) n, digits.length) := by
  induction digits generalizing n with
  | nil => rfl
  | cons d digits ih =>
    rw [List.foldl_cons] at fits ⊢
    have longer := Nat.le_trans (le_foldl_digits digits _) fits
    rw [absorbDigits, if_pos longer, ih fits]
    rfl

theorem absorbDigits_numeral {n : Nat} (small : n ≤ Text.maxWord64) :
    absorbDigits 0 (Text.numeral n) = (n, (Text.numeral n).length) := by
  have value := Text.digitsValue_numeral n
  unfold Text.digitsValue at value
  rw [absorbDigits_eq (by rw [value]; exact small), value]

theorem isWholePart_numeral (n : Nat) : isWholePart (Text.numeral n) = true := by
  rcases Nat.eq_zero_or_pos n with rfl | positive
  · rfl
  · obtain ⟨digit, digits, written, leads⟩ := Text.numeral_eq_cons positive
    rw [written]
    cases digits with
    | nil => rfl
    | cons _ _ => exact bne_iff_ne.mpr leads

theorem readFraction_of_bounded {t : Text} (bounded : Bounded t) :
    readFraction t = some ([], t) := by
  cases t with
  | nil => rfl
  | cons c t =>
    obtain ⟨-, point, -⟩ := bounded c rfl
    rw [readFraction]
    exact fun _ same => point (List.head_eq_of_cons_eq same)

theorem readExponent_of_bounded {t : Text} (bounded : Bounded t) :
    readExponent t = some (none, t) := by
  cases t with
  | nil => rfl
  | cons c t =>
    obtain ⟨-, -, small, large⟩ := bounded c rfl
    simp only [readExponent, small, large, decide_false, Bool.or_false, Bool.false_eq_true,
      if_false]

end Json

/-- A whole number that 64 bits hold. -/
def JsonNumber.IsWhole : JsonNumber → Prop
  | .natural n => n ≤ Text.maxWord64
  | .negative n => 0 < n ∧ n ≤ Json.maxNegative
  | .float _ _ => False

namespace Json

/-- A whole number is read as it is written. -/
theorem readUnsigned_numeral {isNegative : Bool} {n : Nat} {value : JsonNumber} {rest : Text}
    (small : n ≤ Text.maxWord64) (whole : wholeNumber isNegative n = some value)
    (bounded : Bounded rest) :
    readUnsigned isNegative (Text.numeral n ++ rest) = some (value, rest) := by
  have digits {c : Char} (held : c ∈ Text.numeral n) := Text.isDigit_of_mem_numeral held
  have stops : rest.takeWhile Char.isDigit = [] ∧ rest.dropWhile Char.isDigit = rest := by
    cases rest with
    | nil => exact ⟨rfl, rfl⟩
    | cons c rest =>
      have := (bounded c rfl).1
      constructor
      · rw [List.takeWhile_cons_of_neg (by simp [this])]
      · rw [List.dropWhile_cons_of_neg (by simp [this])]
  have parts : NumberParts.value? ⟨isNegative, Text.numeral n, [], none⟩ = some value := by
    rw [NumberParts.value?, absorbDigits_numeral small]
    simp [whole]
  have checked : (guard (isWholePart (Text.numeral n) = true) : Option Unit) = some () :=
    if_pos (isWholePart_numeral n)
  unfold readUnsigned
  rw [List.takeWhile_append_of_pos fun _ => digits, List.dropWhile_append_of_pos fun _ => digits,
    stops.1, stops.2, List.append_nil]
  dsimp only
  rw [checked]
  simp only [readFraction_of_bounded bounded, readExponent_of_bounded bounded, parts,
    Option.bind_eq_bind, Option.bind_some]
  rfl

/-! ## Texts that spell tokens -/

theorem ne_of_isDigit {c d : Char} (digit : c.isDigit = true) (other : d.isDigit = false) :
    c ≠ d := by
  rintro rfl
  rw [digit] at other
  cases other

theorem isSpace_of_isDigit {c : Char} (digit : c.isDigit = true) : isSpace c = false := by
  have ne {d : Char} (other : d.isDigit = false) : c ≠ d := ne_of_isDigit digit other
  simp only [isSpace, Bool.or_eq_false_iff, decide_eq_false_iff_not]
  exact ⟨⟨⟨ne (by decide), ne (by decide)⟩, ne (by decide)⟩, ne (by decide)⟩

/-- A digit begins a number. -/
theorem readToken_digit {c : Char} {rest : Text} (digit : c.isDigit = true) :
    readToken (c :: rest) = (readUnsigned false (c :: rest)).map fun r => (.number r.1, r.2) := by
  have ne {d : Char} (other : d.isDigit = false) : c ≠ d := ne_of_isDigit digit other
  have unknown : wordTokens.find? (fun word => word.1.isPrefixOf (c :: rest)) = none := by
    have n : ('n' == c) = false := beq_false_of_ne (ne (by decide)).symm
    have t : ('t' == c) = false := beq_false_of_ne (ne (by decide)).symm
    have f : ('f' == c) = false := beq_false_of_ne (ne (by decide)).symm
    simp [wordTokens, List.isPrefixOf, n, t, f]
  have unsigned : readNumber (c :: rest) = readUnsigned false (c :: rest) := by
    rw [readNumber]
    exact fun _ same => ne (by decide) (List.head_eq_of_cons_eq same)
  rw [readToken, unknown, unsigned]
  all_goals
    intro _ same
    exact ne (by decide) (List.head_eq_of_cons_eq same)

/-- So does a dash. -/
theorem readToken_dash (rest : Text) :
    readToken ('-' :: rest) = (readUnsigned true rest).map fun r => (.number r.1, r.2) := rfl

theorem tokensFrom_skip (used rest : Text) :
    tokensFrom used.length (used ++ rest) = tokensFrom 0 rest := by
  induction used with
  | nil => rfl
  | cons c used ih => exact ih

/-- The token at the start of a text comes first. -/
theorem tokensFrom_read {c : Char} {used rest : Text} {token : Token} (solid : isSpace c = false)
    (read : readToken (c :: (used ++ rest)) = some (token, rest)) :
    tokensFrom 0 (c :: (used ++ rest)) = (tokensFrom 0 rest).map (token :: ·) := by
  rw [tokensFrom, if_neg (by simp [solid]), read, Option.bind_some, List.length_append,
    Nat.add_sub_cancel, tokensFrom_skip]

/-- A text that gives some tokens in front of those of a text after it, unless that
goes on with a number. -/
def Spells (t : Text) (tokens : List Token) : Prop :=
  ∀ rest, Bounded rest → tokensFrom 0 (t ++ rest) = (tokensFrom 0 rest).map (tokens ++ ·)

namespace Spells

variable {c : Char} {t u : Text} {token : Token} {tokens others : List Token}

theorem nil : Spells [] [] := by
  intro rest _
  rw [List.nil_append]
  exact Option.map_id'.symm ▸ rfl

/-- A mark may stand before anything. -/
theorem mark (solid : isSpace c = false) (read : ∀ rest, readToken (c :: rest) = some (token, rest))
    (spells : Spells t tokens) : Spells (c :: t) (token :: tokens) := by
  intro rest bounded
  have first : tokensFrom 0 ([c] ++ (t ++ rest)) = (tokensFrom 0 (t ++ rest)).map (token :: ·) :=
    tokensFrom_read solid (read _)
  rw [spells rest bounded, Option.map_map] at first
  exact first

/-- So may a string. -/
theorem string (key : Text) (spells : Spells t tokens) :
    Spells (stringText key ++ t) (.string key :: tokens) := by
  intro rest bounded
  have read : readToken ('"' :: ((key.flatMap escapeChar ++ ['"']) ++ (t ++ rest))) =
      some (.string key, t ++ rest) := by
    rw [readToken, List.append_assoc, List.singleton_append, readString_escaped]
    rfl
  have first := tokensFrom_read rfl read
  rw [spells rest bounded, Option.map_map, List.append_assoc] at first
  rw [stringText, List.append_assoc, List.cons_append, List.cons_append, List.append_assoc]
  exact first

/-- Anything may stand before a text that does not go on with a number. -/
theorem append (first : Spells t tokens) (ends : EndsNumber c) (next : Spells (c :: u) others) :
    Spells (t ++ c :: u) (tokens ++ others) := by
  intro rest bounded
  rw [List.append_assoc, List.cons_append, first _ (.cons ends), ← List.cons_append,
    next rest bounded, Option.map_map]
  simp only [Function.comp_def, List.append_assoc]

theorem null : Spells "null" [.null] := fun _ _ => tokensFrom_read rfl rfl

theorem bool (b : Bool) : Spells (atomText (.bool b)) [.bool b] := by
  intro rest _
  cases b with
  | true => exact tokensFrom_read rfl rfl
  | false => exact tokensFrom_read rfl rfl

theorem number {n : JsonNumber} (whole : n.IsWhole) : Spells (numberText n) [.number n] := by
  intro rest bounded
  cases n with
  | natural n =>
    have read : readUnsigned false (Text.numeral n ++ rest) = some (.natural n, rest) :=
      readUnsigned_numeral whole rfl bounded
    obtain ⟨digit, digits, written⟩ := List.exists_cons_of_ne_nil (l := Text.numeral n)
      Nat.toDigits_ne_nil
    have isDigit : digit.isDigit = true :=
      Text.isDigit_of_mem_numeral (n := n) (by rw [written]; exact List.mem_cons_self)
    rw [numberText, written]
    rw [written] at read
    refine tokensFrom_read (isSpace_of_isDigit isDigit) ?_
    rw [readToken_digit isDigit]
    exact congrArg _ read
  | negative n =>
    obtain ⟨positive, small⟩ := whole
    have value : wholeNumber true n = some (.negative n) := by
      have zero : (n == 0) = false := beq_false_of_ne (by omega)
      have large : ¬ n > maxNegative := by omega
      simp [wholeNumber, zero, large]
    have fits : n ≤ Text.maxWord64 := Nat.le_trans small (by decide)
    refine tokensFrom_read rfl ?_
    rw [readToken_dash, readUnsigned_numeral fits value bounded]
    rfl
  | float => exact whole.elim

end Spells

end Json

end SchemaLint
