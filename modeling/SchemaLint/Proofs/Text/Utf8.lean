import SchemaLint.Text.Utf8

/-!
# What is encoded is read back

Reading the octets of a text gives that text (`decode?_utf8`): the first octet of a
character says how many follow and narrows the range of the next, and no character
leaves that range, since none is a surrogate or above `0x10FFFF`. All octets of a
longer encoding are above the ASCII range, so an ASCII octet stands for itself
(`exists_mem_of_mem_utf8`).
-/

namespace SchemaLint.Text

namespace Utf8

/-! ## The first octet of a character -/

theorem first_one : ∀ n < 128, first (UInt8.ofNat n) = ([some (Char.ofNat n)], none) := by
  decide +kernel

theorem first_two : ∀ n < 32, 2 ≤ n →
    first (UInt8.ofNat (n + 192)) = ([], some ⟨n, 0, 0x80, 0xBF⟩) := by
  decide +kernel

theorem first_three : ∀ n < 16, first (UInt8.ofNat (n + 224)) =
    ([], some ⟨n, 1, if n = 0 then 0xA0 else 0x80, if n = 13 then 0x9F else 0xBF⟩) := by
  decide +kernel

theorem first_four : ∀ n < 5, first (UInt8.ofNat (n + 240)) =
    ([], some ⟨n, 2, if n = 0 then 0x90 else 0x80, if n = 4 then 0x8F else 0xBF⟩) := by
  decide +kernel

/-! ## The octets after it -/

/-- The state after an octet that continues a character. -/
def Pending.advance (p : Pending) (n : Nat) : List Found × State :=
  match p.more with
  | 0 => ([some (Char.ofNat (p.bits * 64 + n))], none)
  | more + 1 => ([], some ⟨p.bits * 64 + n, more, 0x80, 0xBF⟩)

theorem toNat_tail {n : Nat} (small : n < 64) : (UInt8.ofNat (n + 128)).toNat = n + 128 :=
  UInt8.toNat_ofNat_of_lt' (show n + 128 < 256 by omega)

theorem next_tail {p : Pending} {n : Nat} (small : n < 64) (low : p.low.toNat ≤ n + 128)
    (high : n + 128 ≤ p.high.toNat) : next p (UInt8.ofNat (n + 128)) = p.advance n := by
  have inside : (p.low ≤ UInt8.ofNat (n + 128) && UInt8.ofNat (n + 128) ≤ p.high) = true := by
    simp only [Bool.and_eq_true, decide_eq_true_eq, UInt8.le_iff_toNat_le, toNat_tail small]
    exact ⟨low, high⟩
  rw [next, if_pos inside, toNat_tail small, Nat.add_sub_cancel]
  rfl

/-- An octet of the usual range continues a character. -/
theorem next_inner {bits more n : Nat} (small : n < 64) :
    next ⟨bits, more, 0x80, 0xBF⟩ (UInt8.ofNat (n + 128)) =
      Pending.advance ⟨bits, more, 0x80, 0xBF⟩ n :=
  next_tail small (show 128 ≤ n + 128 by omega) (show n + 128 ≤ 191 by omega)

section

variable {a b c d : Nat}

/-- The second octet of three is in its range when the encoding is neither longer than
need be nor one of a surrogate. -/
theorem three_range (second : b < 64) (short : a = 0 → 32 ≤ b) (surrogate : a = 13 → b < 32) :
    (if a = 0 then 0xA0 else 0x80 : UInt8).toNat ≤ b + 128 ∧
      b + 128 ≤ (if a = 13 then 0x9F else 0xBF : UInt8).toNat := by
  constructor
  · split
    · next zero => exact show 160 ≤ b + 128 by have := short zero; omega
    · exact show 128 ≤ b + 128 by omega
  · split
    · next top => exact show b + 128 ≤ 159 by have := surrogate top; omega
    · exact show b + 128 ≤ 191 by omega

/-- The second octet of four is in its range when the encoding is not longer than need be
and its number not above that of the last character. -/
theorem four_range (second : b < 64) (short : a = 0 → 16 ≤ b) (large : a = 4 → b < 16) :
    (if a = 0 then 0x90 else 0x80 : UInt8).toNat ≤ b + 128 ∧
      b + 128 ≤ (if a = 4 then 0x8F else 0xBF : UInt8).toNat := by
  constructor
  · split
    · next zero => exact show 144 ≤ b + 128 by have := short zero; omega
    · exact show 128 ≤ b + 128 by omega
  · split
    · next top => exact show b + 128 ≤ 143 by have := large top; omega
    · exact show b + 128 ≤ 191 by omega

variable (rest : List UInt8)

theorem scanFrom_two (leading : 2 ≤ a ∧ a < 32) (second : b < 64) :
    scanFrom none (UInt8.ofNat (a + 192) :: UInt8.ofNat (b + 128) :: rest) =
      some (Char.ofNat (a * 64 + b)) :: scanFrom none rest := by
  rw [scanFrom, step, first_two a leading.2 leading.1, scanFrom, step, next_inner second]
  rfl

/-- Neither a shorter encoding nor a surrogate comes from three octets. -/
theorem scanFrom_three (leading : a < 16) (second : b < 64) (third : c < 64)
    (short : a = 0 → 32 ≤ b) (surrogate : a = 13 → b < 32) :
    scanFrom none
        (UInt8.ofNat (a + 224) :: UInt8.ofNat (b + 128) :: UInt8.ofNat (c + 128) :: rest) =
      some (Char.ofNat ((a * 64 + b) * 64 + c)) :: scanFrom none rest := by
  obtain ⟨low, high⟩ := three_range second short surrogate
  rw [scanFrom, step, first_three a leading, scanFrom, step, next_tail second low high,
    Pending.advance, scanFrom, step, next_inner third]
  rfl

/-- Neither a shorter encoding nor a number above the last character comes from
four. -/
theorem scanFrom_four (leading : a < 5) (second : b < 64) (third : c < 64) (fourth : d < 64)
    (short : a = 0 → 16 ≤ b) (large : a = 4 → b < 16) :
    scanFrom none (UInt8.ofNat (a + 240) :: UInt8.ofNat (b + 128) :: UInt8.ofNat (c + 128) ::
        UInt8.ofNat (d + 128) :: rest) =
      some (Char.ofNat (((a * 64 + b) * 64 + c) * 64 + d)) :: scanFrom none rest := by
  obtain ⟨low, high⟩ := four_range second short large
  rw [scanFrom, step, first_four a leading, scanFrom, step, next_tail second low high,
    Pending.advance, scanFrom, step, next_inner third, Pending.advance, scanFrom, step,
    next_inner fourth]
  rfl

end

/-- The octets of a character, read from between two characters, give it. -/
theorem scanFrom_utf8EncodeChar (c : Char) (rest : List UInt8) :
    scanFrom none (String.utf8EncodeChar c ++ rest) = some c :: scanFrom none rest := by
  have valid : c.toNat < 0xD800 ∨ 0xDFFF < c.toNat ∧ c.toNat < 0x110000 := c.valid
  have same : Char.ofNat c.toNat = c := Char.ofNat_toNat c
  unfold String.utf8EncodeChar
  rw [Char.toNat_val]
  generalize c.toNat = v at valid same
  dsimp only
  split
  · rw [List.singleton_append, scanFrom, step, first_one v (by omega), same]
    rfl
  split
  · have bits : v / 64 % 32 * 64 + v % 64 = v := by omega
    have read := scanFrom_two (a := v / 64 % 32) (b := v % 64) rest (by omega) (by omega)
    rw [bits, same] at read
    exact read
  split
  · have bits : (v / 4096 % 16 * 64 + v / 64 % 64) * 64 + v % 64 = v := by omega
    have read := scanFrom_three (a := v / 4096 % 16) (b := v / 64 % 64) (c := v % 64) rest
      (by omega) (by omega) (by omega) (by omega) (by omega)
    rw [bits, same] at read
    exact read
  · have bits : ((v / 262144 % 8 * 64 + v / 4096 % 64) * 64 + v / 64 % 64) * 64 + v % 64 = v := by
      omega
    have read := scanFrom_four (a := v / 262144 % 8) (b := v / 4096 % 64) (c := v / 64 % 64)
      (d := v % 64) rest (by omega) (by omega) (by omega) (by omega) (by omega) (by omega)
    rw [bits, same] at read
    exact read

theorem scan_utf8 (t : Text) : scan (utf8 t) = t.map some := by
  induction t with
  | nil => rfl
  | cons c t ih =>
    rw [scan, utf8, List.flatMap_cons, scanFrom_utf8EncodeChar, List.map_cons]
    exact congrArg (some c :: ·) ih

/-- The octets of a text are read back as the text. -/
theorem decode?_utf8 (t : Text) : decode? (utf8 t) = some t := by
  rw [decode?, scan_utf8]
  induction t with
  | nil => rfl
  | cons c t ih =>
    rw [List.map_cons, List.mapM_cons, ih]
    rfl

end Utf8

/-! ## ASCII octets -/

theorem eq_or_le_of_mem_utf8EncodeChar {b : UInt8} {c : Char}
    (held : b ∈ String.utf8EncodeChar c) : b.toNat = c.toNat ∨ 128 ≤ b.toNat := by
  have above {n : Nat} (low : 128 ≤ n) (high : n < 256) : 128 ≤ (UInt8.ofNat n).toNat := by
    rw [UInt8.toNat_ofNat_of_lt' high]
    exact low
  unfold String.utf8EncodeChar at held
  rw [Char.toNat_val] at held
  dsimp only at held
  split at held
  · have same := List.mem_singleton.mp held
    left
    rw [same, UInt8.toNat_ofNat_of_lt' (show c.toNat < 256 by omega)]
  · right
    split at held
    · rcases List.mem_cons.mp held with rfl | held
      · exact above (by omega) (by omega)
      · rw [List.mem_singleton.mp held]
        exact above (by omega) (by omega)
    · split at held
      all_goals
        simp only [List.mem_cons, List.not_mem_nil, or_false] at held
      · rcases held with rfl | rfl | rfl
        all_goals exact above (by omega) (by omega)
      · rcases held with rfl | rfl | rfl | rfl
        all_goals exact above (by omega) (by omega)

/-- An ASCII octet of a text is a character of it. -/
theorem exists_mem_of_mem_utf8 {b : UInt8} {t : Text} (held : b ∈ utf8 t) (ascii : b.toNat < 128) :
    ∃ c ∈ t, c.toNat = b.toNat := by
  obtain ⟨c, present, held⟩ := List.mem_flatMap.mp held
  rcases eq_or_le_of_mem_utf8EncodeChar held with same | above
  · exact ⟨c, present, same.symm⟩
  · omega

end SchemaLint.Text
