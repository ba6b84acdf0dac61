import SchemaLint.Proofs.Text.Utf8

/-!
# Forgiving reading of octets

The rule of the forgiving reading, without the machine: the octets of a character give the
character, and an ill-formed part gives the replacement character. Such a part is a
character that breaks off, as long as it can be, or a single octet that begins none
(`IllFormed`). Reading follows the rule and nothing else does (`decodeLossy_eq_iff`). The
machine's states are the characters begun (`Begun`), and from each of them exactly the
octets that go on with a character are taken (`Begun.next_cases`).

All octets of a character but an ASCII one are above the ASCII range, so an ASCII octet
stands for itself wherever it comes, also after a character that breaks off
(`decodeLossy_append_cons`).
-/

namespace SchemaLint.Text

namespace Utf8

/-! ## The rule -/

/-- After the octets of `part`, the octet `b` goes on with some character, or ends it. -/
def GoesOn (part : List UInt8) (b : UInt8) : Prop :=
  ∃ (c : Char) (more : List UInt8), String.utf8EncodeChar c = part ++ b :: more

/-- The octets of `part` are an ill-formed part, with `rest` after it. -/
inductive IllFormed : List UInt8 → List UInt8 → Prop where
  /-- A character that breaks off: no character goes on with the next octet. -/
  | unfinished {part rest : List UInt8} (begun : part ≠ []) (unended : ∃ b, GoesOn part b)
      (stops : ∀ b ∈ rest.head?, ¬ GoesOn part b) : IllFormed part rest
  /-- An octet that begins no character. -/
  | stray {b : UInt8} {rest : List UInt8} (noStart : ¬ GoesOn [] b) : IllFormed [b] rest

/-- The text that octets give, with one replacement character for each ill-formed part. -/
inductive Decodes : List UInt8 → Text → Prop where
  | nil : Decodes [] []
  | char {rest : List UInt8} {t : Text} (c : Char) (later : Decodes rest t) :
      Decodes (String.utf8EncodeChar c ++ rest) (c :: t)
  | replaced {part rest : List UInt8} {t : Text} (bad : IllFormed part rest)
      (later : Decodes rest t) : Decodes (part ++ rest) (replacement :: t)

theorem Decodes.eq_nil {bytes : List UInt8} (decodes : Decodes bytes []) : bytes = [] := by
  cases decodes
  rfl

/-! ## The octets of a character that is given by its bits -/

section

variable {a b c d : Nat}

theorem toNat_val_ofNat {n : Nat} (valid : n < 0xD800 ∨ 0xDFFF < n ∧ n < 0x110000) :
    (Char.ofNat n).val.toNat = n := by
  have isValid : n.isValidChar := valid
  rw [Char.ofNat, dif_pos isValid]
  exact UInt32.toNat_ofNatLT ..

theorem utf8EncodeChar_one (small : a < 128) :
    String.utf8EncodeChar (Char.ofNat a) = [UInt8.ofNat a] := by
  have value : (Char.ofNat a).val.toNat = a := toNat_val_ofNat (by omega)
  unfold String.utf8EncodeChar
  rw [value]
  exact if_pos (by omega)

theorem utf8EncodeChar_two (leading : 2 ≤ a ∧ a < 32) (second : b < 64) :
    String.utf8EncodeChar (Char.ofNat (a * 64 + b)) =
      [UInt8.ofNat (a + 192), UInt8.ofNat (b + 128)] := by
  have value : (Char.ofNat (a * 64 + b)).val.toNat = a * 64 + b := toNat_val_ofNat (by omega)
  have first : (a * 64 + b) / 64 % 32 = a := by omega
  have last : (a * 64 + b) % 64 = b := by omega
  unfold String.utf8EncodeChar
  rw [value]
  dsimp only
  rw [if_neg (by omega), if_pos (by omega), first, last]

theorem utf8EncodeChar_three (leading : a < 16) (second : b < 64) (third : c < 64)
    (short : a = 0 → 32 ≤ b) (surrogate : a = 13 → b < 32) :
    String.utf8EncodeChar (Char.ofNat ((a * 64 + b) * 64 + c)) =
      [UInt8.ofNat (a + 224), UInt8.ofNat (b + 128), UInt8.ofNat (c + 128)] := by
  have value : (Char.ofNat ((a * 64 + b) * 64 + c)).val.toNat = (a * 64 + b) * 64 + c :=
    toNat_val_ofNat (by omega)
  have first : ((a * 64 + b) * 64 + c) / 4096 % 16 = a := by omega
  have middle : ((a * 64 + b) * 64 + c) / 64 % 64 = b := by omega
  have last : ((a * 64 + b) * 64 + c) % 64 = c := by omega
  unfold String.utf8EncodeChar
  rw [value]
  dsimp only
  rw [if_neg (by omega), if_neg (by omega), if_pos (by omega), first, middle, last]

theorem utf8EncodeChar_four (leading : a < 5) (second : b < 64) (third : c < 64) (fourth : d < 64)
    (short : a = 0 → 16 ≤ b) (large : a = 4 → b < 16) :
    String.utf8EncodeChar (Char.ofNat (((a * 64 + b) * 64 + c) * 64 + d)) =
      [UInt8.ofNat (a + 240), UInt8.ofNat (b + 128), UInt8.ofNat (c + 128),
        UInt8.ofNat (d + 128)] := by
  have value : (Char.ofNat (((a * 64 + b) * 64 + c) * 64 + d)).val.toNat =
      ((a * 64 + b) * 64 + c) * 64 + d := toNat_val_ofNat (by omega)
  have first : (((a * 64 + b) * 64 + c) * 64 + d) / 262144 % 8 = a := by omega
  have second : (((a * 64 + b) * 64 + c) * 64 + d) / 4096 % 64 = b := by omega
  have third : (((a * 64 + b) * 64 + c) * 64 + d) / 64 % 64 = c := by omega
  have last : (((a * 64 + b) * 64 + c) * 64 + d) % 64 = d := by omega
  unfold String.utf8EncodeChar
  rw [value]
  dsimp only
  rw [if_neg (by omega), if_neg (by omega), if_neg (by omega), first, second, third, last]

end

theorem scan_utf8EncodeChar (c : Char) : scan (String.utf8EncodeChar c) = [some c] := by
  rw [scan, ← List.append_nil (String.utf8EncodeChar c), scanFrom_utf8EncodeChar]
  rfl

/-! ## The characters begun -/

/-- The octets of a character begun, and where the machine stands after them. -/
inductive Begun : List UInt8 → Pending → Prop where
  | two {a : Nat} (leading : 2 ≤ a ∧ a < 32) :
      Begun [UInt8.ofNat (a + 192)] ⟨a, 0, 0x80, 0xBF⟩
  | three {a : Nat} (leading : a < 16) :
      Begun [UInt8.ofNat (a + 224)]
        ⟨a, 1, if a = 0 then 0xA0 else 0x80, if a = 13 then 0x9F else 0xBF⟩
  | four {a : Nat} (leading : a < 5) :
      Begun [UInt8.ofNat (a + 240)]
        ⟨a, 2, if a = 0 then 0x90 else 0x80, if a = 4 then 0x8F else 0xBF⟩
  | threeSecond {a b : Nat} (leading : a < 16) (second : b < 64) (short : a = 0 → 32 ≤ b)
      (surrogate : a = 13 → b < 32) :
      Begun [UInt8.ofNat (a + 224), UInt8.ofNat (b + 128)] ⟨a * 64 + b, 0, 0x80, 0xBF⟩
  | fourSecond {a b : Nat} (leading : a < 5) (second : b < 64) (short : a = 0 → 16 ≤ b)
      (large : a = 4 → b < 16) :
      Begun [UInt8.ofNat (a + 240), UInt8.ofNat (b + 128)] ⟨a * 64 + b, 1, 0x80, 0xBF⟩
  | fourThird {a b c : Nat} (leading : a < 5) (second : b < 64) (third : c < 64)
      (short : a = 0 → 16 ≤ b) (large : a = 4 → b < 16) :
      Begun [UInt8.ofNat (a + 240), UInt8.ofNat (b + 128), UInt8.ofNat (c + 128)]
        ⟨(a * 64 + b) * 64 + c, 0, 0x80, 0xBF⟩

/-- An octet of a range of those that continue characters, by its bits. -/
theorem exists_tail {b low high : UInt8} (inside : (low ≤ b && b ≤ high) = true)
    (least : 128 ≤ low.toNat) (greatest : high.toNat ≤ 191) :
    ∃ n < 64, b = UInt8.ofNat (n + 128) ∧ low.toNat ≤ n + 128 ∧ n + 128 ≤ high.toNat := by
  simp only [Bool.and_eq_true, decide_eq_true_eq, UInt8.le_iff_toNat_le] at inside
  refine ⟨b.toNat - 128, by omega, ?_, by omega, by omega⟩
  rw [Nat.sub_add_cancel (by omega), UInt8.ofNat_toNat]

namespace Begun

variable {part rest : List UInt8} {p : Pending} {b : UInt8}

theorem range (begun : Begun part p) :
    128 ≤ p.low.toNat ∧ p.low.toNat ≤ p.high.toNat ∧ p.high.toNat ≤ 191 := by
  cases begun with
  | two | threeSecond | fourSecond | fourThird =>
    exact ⟨Nat.le_refl 128, show 128 ≤ 191 by decide, Nat.le_refl 191⟩
  | three | four =>
    refine ⟨?_, ?_, ?_⟩
    · dsimp only
      split <;> decide
    · dsimp only
      split
      · next zero => subst zero; decide
      · split <;> decide
    · dsimp only
      split <;> decide

/-- An octet of the range ends the character or goes on with it. -/
theorem next_cases (begun : Begun part p) (inside : (p.low ≤ b && b ≤ p.high) = true) :
    (∃ c, next p b = ([some c], none) ∧ String.utf8EncodeChar c = part ++ [b]) ∨
      ∃ q, next p b = ([], some q) ∧ Begun (part ++ [b]) q ∧ q.more < p.more := by
  obtain ⟨n, small, rfl, low, high⟩ := exists_tail inside begun.range.1 begun.range.2.2
  rw [next_tail small low high]
  cases begun with
  | two leading => exact Or.inl ⟨_, rfl, utf8EncodeChar_two leading small⟩
  | @three a leading =>
    refine Or.inr ⟨_, rfl, .threeSecond leading small ?_ ?_, Nat.zero_lt_one⟩
    · rintro rfl
      have low : 160 ≤ n + 128 := low
      omega
    · rintro rfl
      have high : n + 128 ≤ 159 := high
      omega
  | @four a leading =>
    refine Or.inr ⟨_, rfl, .fourSecond leading small ?_ ?_, Nat.one_lt_two⟩
    · rintro rfl
      have low : 144 ≤ n + 128 := low
      omega
    · rintro rfl
      have high : n + 128 ≤ 143 := high
      omega
  | threeSecond leading second short surrogate =>
    exact Or.inl ⟨_, rfl, utf8EncodeChar_three leading second small short surrogate⟩
  | fourSecond leading second short large =>
    exact Or.inr ⟨_, rfl, .fourThird leading second small short large, Nat.zero_lt_one⟩
  | fourThird leading second third short large =>
    exact Or.inl ⟨_, rfl, utf8EncodeChar_four leading second third small short large⟩

theorem ne_nil (begun : Begun part p) : part ≠ [] := by
  cases begun <;> exact List.cons_ne_nil _ _

/-- Reading the octets of a character begun leaves the machine inside it. -/
theorem scanFrom_eq (begun : Begun part p) (rest : List UInt8) :
    scanFrom none (part ++ rest) = scanFrom (some p) rest := by
  cases begun with
  | two leading =>
    rw [List.singleton_append, scanFrom, step, first_two _ leading.2 leading.1]
    rfl
  | three leading =>
    rw [List.singleton_append, scanFrom, step, first_three _ leading]
    rfl
  | four leading =>
    rw [List.singleton_append, scanFrom, step, first_four _ leading]
    rfl
  | threeSecond leading second short surrogate =>
    obtain ⟨low, high⟩ := three_range second short surrogate
    rw [List.cons_append, List.singleton_append, scanFrom, step, first_three _ leading, scanFrom,
      step, next_tail second low high]
    rfl
  | fourSecond leading second short large =>
    obtain ⟨low, high⟩ := four_range second short large
    rw [List.cons_append, List.singleton_append, scanFrom, step, first_four _ leading, scanFrom,
      step, next_tail second low high]
    rfl
  | fourThird leading second third short large =>
    obtain ⟨low, high⟩ := four_range second short large
    rw [List.cons_append, List.cons_append, List.singleton_append, scanFrom, step,
      first_four _ leading, scanFrom, step, next_tail second low high, Pending.advance, scanFrom,
      step, next_inner third]
    rfl

/-- The least octet of a range lies in it. -/
theorem low_inside (begun : Begun part p) : (p.low ≤ p.low && p.low ≤ p.high) = true := by
  rw [Bool.and_eq_true, decide_eq_true_eq, decide_eq_true_eq, UInt8.le_iff_toNat_le,
    UInt8.le_iff_toNat_le]
  exact ⟨Nat.le_refl _, begun.range.2.1⟩

theorem goesOn_of_inside (begun : Begun part p) (inside : (p.low ≤ b && b ≤ p.high) = true) :
    GoesOn part b := by
  -- Each further octet leaves fewer to come, so the least of each range ends a character.
  induction more : p.more using Nat.strongRecOn generalizing part p b with
  | ind more ih =>
    rcases begun.next_cases inside with ⟨c, -, whole⟩ | ⟨q, -, further, fewer⟩
    · exact ⟨c, [], whole⟩
    · obtain ⟨c, rest, whole⟩ := ih q.more (by omega) further further.low_inside rfl
      exact ⟨c, q.low :: rest, by rw [whole, List.append_assoc, List.singleton_append]⟩

theorem unended (begun : Begun part p) : ∃ b, GoesOn part b :=
  ⟨p.low, begun.goesOn_of_inside begun.low_inside⟩

/-- An octet out of the range goes on with no character. -/
theorem not_goesOn (begun : Begun part p) (outside : ¬ (p.low ≤ b && b ≤ p.high) = true) :
    ¬ GoesOn part b := by
  rintro ⟨c, more, whole⟩
  have read := scan_utf8EncodeChar c
  rw [whole, scan, begun.scanFrom_eq, scanFrom, step, next, if_neg outside] at read
  cases read

end Begun

/-! ## The first octet -/

theorem first_tail : ∀ n < 66, first (UInt8.ofNat (n + 128)) = ([none], none) := by
  decide +kernel

theorem first_above : ∀ n < 11, first (UInt8.ofNat (n + 245)) = ([none], none) := by
  decide +kernel

/-- An octet between two characters is one, begins one, or does neither. -/
theorem first_cases (b : UInt8) :
    (∃ c, first b = ([some c], none) ∧ String.utf8EncodeChar c = [b]) ∨
      first b = ([none], none) ∨ ∃ p, first b = ([], some p) ∧ Begun [b] p := by
  obtain ⟨n, small, rfl⟩ : ∃ n < 256, b = UInt8.ofNat n :=
    ⟨b.toNat, b.toNat_lt, UInt8.ofNat_toNat.symm⟩
  have leading {low : Nat} (least : low ≤ n) : n = (n - low) + low := by omega
  by_cases ascii : n < 128
  · exact Or.inl ⟨_, first_one n ascii, utf8EncodeChar_one ascii⟩
  by_cases tail : n < 194
  · rw [leading (show 128 ≤ n by omega)]
    exact Or.inr (Or.inl (first_tail (n - 128) (by omega)))
  by_cases above : 245 ≤ n
  · rw [leading above]
    exact Or.inr (Or.inl (first_above (n - 245) (by omega)))
  refine Or.inr (Or.inr ?_)
  by_cases two : n < 224
  · rw [leading (show 192 ≤ n by omega)]
    exact ⟨_, first_two (n - 192) (by omega) (by omega), .two (by omega)⟩
  by_cases three : n < 240
  · rw [leading (show 224 ≤ n by omega)]
    exact ⟨_, first_three (n - 224) (by omega), .three (by omega)⟩
  · rw [leading (show 240 ≤ n by omega)]
    exact ⟨_, first_four (n - 240) (by omega), .four (by omega)⟩

theorem not_goesOn_of_stray {b : UInt8} (stray : first b = ([none], none)) : ¬ GoesOn [] b := by
  rintro ⟨c, more, whole⟩
  have read := scan_utf8EncodeChar c
  rw [whole, scan, List.nil_append, scanFrom, step, stray] at read
  cases read

/-! ## Reading follows the rule -/

section

variable {part rest bytes : List UInt8} {p : Pending} {b : UInt8}

/-- The text that is read from a given state. -/
def lossyFrom (state : State) (bytes : List UInt8) : Text :=
  (scanFrom state bytes).map fun found => found.getD replacement

theorem lossyFrom_cons (state : State) (b : UInt8) (bytes : List UInt8) :
    lossyFrom state (b :: bytes) =
      (step state b).1.map (fun found => found.getD replacement) ++
        lossyFrom (step state b).2 bytes := by
  rw [lossyFrom, scanFrom, List.map_append]
  rfl

/-- An octet that does not go on with the character begun is read after it. -/
theorem lossyFrom_of_outside (outside : ¬ (p.low ≤ b && b ≤ p.high) = true)
    (bytes : List UInt8) :
    lossyFrom (some p) (b :: bytes) = replacement :: lossyFrom none (b :: bytes) := by
  have refused : step (some p) b = (none :: (first b).1, (first b).2) := if_neg outside
  rw [lossyFrom_cons (some p), refused, lossyFrom_cons none]
  rfl

theorem decodes_lossyFrom (bytes : List UInt8) : Decodes bytes (lossyFrom none bytes) ∧
    ∀ part p, Begun part p → Decodes (part ++ bytes) (lossyFrom (some p) bytes) := by
  induction bytes with
  | nil =>
    exact ⟨.nil, fun part p begun => .replaced (.unfinished begun.ne_nil begun.unended nofun) .nil⟩
  | cons b bytes ih =>
    have between : Decodes (b :: bytes) (lossyFrom none (b :: bytes)) := by
      rw [lossyFrom_cons, step]
      rcases first_cases b with ⟨c, read, whole⟩ | stray | ⟨p, read, begun⟩
      · rw [read]
        have char := Decodes.char c ih.1
        rwa [whole] at char
      · rw [stray]
        exact .replaced (.stray (not_goesOn_of_stray stray)) ih.1
      · rw [read]
        exact ih.2 [b] p begun
    refine ⟨between, fun part p begun => ?_⟩
    by_cases inside : (p.low ≤ b && b ≤ p.high) = true
    · rw [lossyFrom_cons, step]
      rcases begun.next_cases inside with ⟨c, read, whole⟩ | ⟨q, read, further, -⟩
      · rw [read]
        have char := Decodes.char c ih.1
        rwa [whole, List.append_assoc] at char
      · rw [read]
        have later := ih.2 _ q further
        rwa [List.append_assoc] at later
    · rw [lossyFrom_of_outside inside]
      refine .replaced (.unfinished begun.ne_nil begun.unended ?_) between
      rintro _ ⟨⟩
      exact begun.not_goesOn inside

theorem decodes_decodeLossy (bytes : List UInt8) : Decodes bytes (decodeLossy bytes) :=
  (decodes_lossyFrom bytes).1

/-! ## Nothing else follows the rule -/

/-- The octets of one character do not begin those of another. -/
theorem utf8EncodeChar_ne_append {c d : Char} (ne : rest ≠ []) :
    String.utf8EncodeChar c ≠ String.utf8EncodeChar d ++ rest := by
  intro whole
  have read := scan_utf8EncodeChar c
  rw [whole, scan, scanFrom_utf8EncodeChar] at read
  have decodes := decodes_decodeLossy rest
  rw [decodeLossy, scan, (List.cons.inj read).2] at decodes
  exact ne decodes.eq_nil

theorem Begun.extend (begun : Begun part p) (goes : GoesOn (part ++ rest) b) :
    ∃ q, Begun (part ++ rest) q := by
  induction rest generalizing part p with
  | nil => exact ⟨p, by rwa [List.append_nil]⟩
  | cons x rest ih =>
    obtain ⟨c, more, whole⟩ := goes
    rw [List.append_assoc, List.cons_append] at whole
    have inside : (p.low ≤ x && x ≤ p.high) = true :=
      Decidable.of_not_not fun outside => begun.not_goesOn outside ⟨c, _, whole⟩
    rcases begun.next_cases inside with ⟨d, -, ended⟩ | ⟨q, -, further, -⟩
    · rw [← List.singleton_append, ← List.append_assoc, ← ended] at whole
      exact (utf8EncodeChar_ne_append (by simp) whole).elim
    · rw [← List.singleton_append, ← List.append_assoc] at whole ⊢
      exact ih further ⟨c, more, by rw [whole, List.append_assoc _ rest]⟩

theorem GoesOn.exists_begun (begun : part ≠ []) (goes : GoesOn part b) : ∃ p, Begun part p := by
  obtain ⟨x, rest, rfl⟩ := List.exists_cons_of_ne_nil begun
  obtain ⟨c, more, whole⟩ := goes
  rcases first_cases x with ⟨d, -, ended⟩ | stray | ⟨p, -, opened⟩
  · rw [List.cons_append, ← List.singleton_append, ← ended] at whole
    exact (utf8EncodeChar_ne_append (by simp) whole).elim
  · exact (not_goesOn_of_stray stray ⟨c, _, whole⟩).elim
  · exact Begun.extend opened ⟨c, more, whole⟩

theorem decodeLossy_illFormed (bad : IllFormed part rest) :
    decodeLossy (part ++ rest) = replacement :: decodeLossy rest := by
  cases bad with
  | unfinished begun unended stops =>
    obtain ⟨b, goes⟩ := unended
    obtain ⟨p, opened⟩ := goes.exists_begun begun
    rw [decodeLossy, scan, opened.scanFrom_eq]
    cases rest with
    | nil => rfl
    | cons x rest =>
      have outside : ¬ (p.low ≤ x && x ≤ p.high) = true :=
        fun inside => stops x rfl (opened.goesOn_of_inside inside)
      exact lossyFrom_of_outside outside rest
  | @stray b _ noStart =>
    rcases first_cases b with ⟨c, -, ended⟩ | read | ⟨p, -, opened⟩
    · exact (noStart ⟨c, [], ended⟩).elim
    · show lossyFrom none (b :: rest) = _
      rw [lossyFrom_cons, step, read]
      rfl
    · obtain ⟨d, c, more, whole⟩ := opened.unended
      exact (noStart ⟨c, _, whole⟩).elim

/-- The rule gives exactly the text that is read. -/
theorem decodeLossy_eq_iff {t : Text} : decodeLossy bytes = t ↔ Decodes bytes t := by
  constructor
  · rintro rfl
    exact decodes_decodeLossy bytes
  · intro decodes
    induction decodes with
    | nil => rfl
    | char c _ ih =>
      rw [decodeLossy, scan, scanFrom_utf8EncodeChar, ← ih]
      rfl
    | replaced bad _ ih => rw [decodeLossy_illFormed bad, ih]

end

/-! ## ASCII octets -/

section

variable {c : Char} (ascii : c.toNat < 128) {xs ys : List UInt8} {t u : Text}
include ascii

theorem utf8EncodeChar_ascii : String.utf8EncodeChar c = [UInt8.ofNat c.toNat] := by
  have encoded := utf8EncodeChar_one ascii
  rwa [Char.ofNat_toNat] at encoded

/-- No character goes on with an ASCII octet. -/
theorem not_goesOn_ascii {part : List UInt8} (begun : part ≠ []) :
    ¬ GoesOn part (UInt8.ofNat c.toNat) := by
  intro goes
  obtain ⟨p, opened⟩ := goes.exists_begun begun
  have outside : ¬ (p.low ≤ UInt8.ofNat c.toNat && UInt8.ofNat c.toNat ≤ p.high) = true := by
    have small : (UInt8.ofNat c.toNat).toNat = c.toNat :=
      UInt8.toNat_ofNat_of_lt' (show c.toNat < 256 by omega)
    have least := opened.range.1
    rw [Bool.and_eq_true, decide_eq_true_eq, UInt8.le_iff_toNat_le, small]
    omega
  exact opened.not_goesOn outside goes

theorem IllFormed.append_cons {part rest : List UInt8} (bad : IllFormed part rest) :
    IllFormed part (rest ++ UInt8.ofNat c.toNat :: ys) := by
  cases bad with
  | unfinished begun unended stops =>
    refine .unfinished begun unended ?_
    cases rest with
    | nil =>
      rintro _ ⟨⟩
      exact not_goesOn_ascii ascii begun
    | cons b rest => exact stops
  | stray noStart => exact .stray noStart

theorem Decodes.append_cons (first : Decodes xs t) (later : Decodes ys u) :
    Decodes (xs ++ UInt8.ofNat c.toNat :: ys) (t ++ c :: u) := by
  induction first with
  | nil =>
    have char := Decodes.char c later
    rwa [utf8EncodeChar_ascii ascii] at char
  | char d _ ih =>
    rw [List.append_assoc]
    exact .char d ih
  | replaced bad _ ih =>
    rw [List.append_assoc]
    exact .replaced (bad.append_cons ascii) ih

/-- An ASCII octet is read as its character, whatever comes before it. -/
theorem decodeLossy_append_cons (xs ys : List UInt8) :
    decodeLossy (xs ++ UInt8.ofNat c.toNat :: ys) = decodeLossy xs ++ c :: decodeLossy ys :=
  decodeLossy_eq_iff.mpr
    ((decodes_decodeLossy xs).append_cons ascii (decodes_decodeLossy ys))

theorem ne_replacement : c ≠ replacement := by
  rintro rfl
  exact absurd ascii (by decide)

/-- An ASCII character comes from its octet only. -/
theorem Decodes.mem (decodes : Decodes xs t) (held : c ∈ t) : UInt8.ofNat c.toNat ∈ xs := by
  induction decodes with
  | nil => cases held
  | char d _ ih =>
    rcases List.mem_cons.mp held with rfl | held
    · rw [utf8EncodeChar_ascii ascii]
      exact List.mem_cons_self
    · exact List.mem_append_right _ (ih held)
  | replaced _ _ ih =>
    rcases List.mem_cons.mp held with same | held
    · exact (ne_replacement ascii same).elim
    · exact List.mem_append_right _ (ih held)

theorem Decodes.getLast? (decodes : Decodes xs t) (last : t.getLast? = some c) :
    xs.getLast? = some (UInt8.ofNat c.toNat) := by
  -- The last character decides, so what is before a later one only goes along.
  have later {before xs : List UInt8} {t : Text} {d : Char} (ne : t ≠ [])
      (ih : t.getLast? = some c → xs.getLast? = some (UInt8.ofNat c.toNat))
      (last : (d :: t).getLast? = some c) :
      (before ++ xs).getLast? = some (UInt8.ofNat c.toNat) := by
    rw [List.getLast?_cons_of_ne_nil ne] at last
    rw [List.getLast?_append, ih last, Option.some_or]
  induction decodes with
  | nil => cases last
  | @char rest t d decodes ih =>
    by_cases empty : t = []
    · subst empty
      have same : d = c := Option.some.inj last
      rw [same, decodes.eq_nil, List.append_nil, utf8EncodeChar_ascii ascii]
      rfl
    · exact later empty ih last
  | @replaced part rest t _ _ ih =>
    by_cases empty : t = []
    · subst empty
      exact (ne_replacement ascii (Option.some.inj last).symm).elim
    · exact later empty ih last

end

/-- What was encoded is read back. -/
theorem decodeLossy_utf8 (t : Text) : decodeLossy (utf8 t) = t := by
  rw [decodeLossy, scan_utf8, List.map_map]
  exact List.map_id t

end Utf8

end SchemaLint.Text
