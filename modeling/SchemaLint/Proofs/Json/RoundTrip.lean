import SchemaLint.Proofs.Json.Token
import SchemaLint.Proofs.Json.Written

/-!
# Written values are read back

A value on one line is read back as it was (`Readable.read?_compact`) if its numbers are
whole, the keys of each object are distinct, and it does not nest too deep
(`Readable`). The text spells the tokens of the value, so it writes the value, and
gathering distinct keys changes nothing. The text itself holds no control character
(`Readable.clean`).
-/

namespace SchemaLint.Json

/-- A value that can be read back, with at most `depth` arrays and objects inside
each other. -/
inductive Readable : Nat → Json → Prop where
  | null {depth : Nat} : Readable depth .null
  | bool {depth : Nat} (b : Bool) : Readable depth (.bool b)
  | number {depth : Nat} {n : JsonNumber} (whole : n.IsWhole) : Readable depth (.number n)
  | string {depth : Nat} (t : Text) : Readable depth (.string t)
  | array {depth : Nat} {items : List Json} (each : ∀ item ∈ items, Readable depth item) :
      Readable (depth + 1) (.array items)
  | object {depth : Nat} {members : Members} (distinct : members.keys.Nodup)
      (each : ∀ member ∈ members, Readable depth member.2) :
      Readable (depth + 1) (.object members)

/-! ## The tokens of its text -/

theorem spells_compactItems {items : List Json}
    (each : ∀ item ∈ items, Spells item.compact item.tokens) :
    Spells (compactItems items) (itemTokens items) := by
  induction items with
  | nil => exact .nil
  | cons item items ih =>
    obtain ⟨first, others⟩ := List.forall_mem_cons.mp each
    cases items with
    | nil =>
      rw [compactItems, itemTokens]
      exact first
    | cons next items =>
      rw [compactItems, itemTokens]
      exact first.append (by decide) (.mark rfl (fun _ => rfl) (ih others))

theorem spells_compactMembers {members : Members}
    (each : ∀ member ∈ members, Spells member.2.compact member.2.tokens) :
    Spells (compactMembers members) (memberTokens members) := by
  induction members with
  | nil => exact .nil
  | cons member members ih =>
    obtain ⟨first, others⟩ := List.forall_mem_cons.mp each
    obtain ⟨key, value⟩ := member
    have opening : Spells (stringText key ++ ':' :: value.compact)
        (.string key :: .colon :: value.tokens) :=
      .string key (.mark rfl (fun _ => rfl) first)
    cases members with
    | nil =>
      rw [compactMembers, memberTokens]
      exact opening
    | cons next members =>
      rw [compactMembers, memberTokens]
      exact opening.append (by decide) (.mark rfl (fun _ => rfl) (ih others))

/-- The text of a value spells its tokens. -/
theorem Readable.spells {depth : Nat} {j : Json} (readable : j.Readable depth) :
    Spells j.compact j.tokens := by
  induction readable with
  | null => exact .null
  | bool b => exact .bool b
  | number whole => exact .number whole
  | string t =>
    have := Spells.string t .nil
    rw [List.append_nil] at this
    exact this
  | array _ ih =>
    have closing : Spells [']'] [.closeArray] := .mark rfl (fun _ => rfl) .nil
    rw [compact, tokens]
    exact .mark rfl (fun _ => rfl) ((spells_compactItems ih).append (by decide) closing)
  | object _ _ ih =>
    have closing : Spells ['\x7d'] [.closeObject] := .mark rfl (fun _ => rfl) .nil
    rw [compact, tokens]
    exact .mark rfl (fun _ => rfl) ((spells_compactMembers ih).append (by decide) closing)

/-! ## The value of its tokens -/

theorem Readable.within {depth : Nat} {j : Json} (readable : j.Readable depth) :
    j.Within depth := by
  induction readable with
  | null => exact .null
  | bool b => exact .bool b
  | @number _ n _ => exact .number n
  | string t => exact .string t
  | array _ ih => exact .array ih
  | object _ _ ih => exact .object ih

theorem Readable.gathered_eq {depth : Nat} {j : Json} (readable : j.Readable depth) :
    j.gathered = j := by
  induction readable with
  | null => rfl
  | bool b => rfl
  | number whole => rfl
  | string t => rfl
  | array _ ih => rw [gathered, gatheredItems_eq_map, List.map_congr_left ih, List.map_id']
  | @object _ members distinct _ ih =>
    have each (m : Text × Json) (held : m ∈ members) : (m.1, m.2.gathered) = m := by
      rw [ih m held]
    have same : (members.mapValues fun _ value => value.gathered) = members :=
      (List.map_congr_left each).trans (List.map_id' members)
    rw [gathered, gatheredMembers_eq, same, Members.gather_of_nodup distinct]

/-- A value on one line is read back. -/
theorem Readable.read?_compact {j : Json} (readable : j.Readable maxDepth) :
    read? j.compact = some j := by
  have spelled := readable.spells [] .nil
  rw [List.append_nil] at spelled
  have writes : Writes j.compact j := by
    refine ⟨?_, readable.within⟩
    rw [tokens?, spelled]
    exact congrArg some (List.append_nil _)
  rw [writes.read?_eq, readable.gathered_eq]

/-! ## No control characters -/

/-- A text without control characters. -/
def Clean (t : Text) : Prop := ∀ c ∈ t, 32 ≤ c.toNat

namespace Clean

variable {c : Char} {t u : Text}

theorem nil : Clean [] := nofun

theorem cons (first : 32 ≤ c.toNat) (rest : Clean t) : Clean (c :: t) :=
  List.forall_mem_cons.mpr ⟨first, rest⟩

theorem append (first : Clean t) (second : Clean u) : Clean (t ++ u) :=
  List.forall_mem_append.mpr ⟨first, second⟩

theorem of_all (all : (t.all fun c => decide (32 ≤ c.toNat)) = true) : Clean t :=
  fun c held => of_decide_eq_true (List.all_eq_true.mp all c held)

theorem hex4 {n : Nat} (small : n < 32) : Clean (hex4 n) := by
  have all : ∀ n < 32, ((Json.hex4 n).all fun c => decide (32 ≤ c.toNat)) = true := by decide
  exact of_all (all n small)

theorem escapeChar (c : Char) : Clean (escapeChar c) := by
  unfold Json.escapeChar
  split
  · exact of_all rfl
  · exact of_all rfl
  · exact of_all rfl
  · exact of_all rfl
  · exact of_all rfl
  · split
    · exact of_all rfl
    split
    · exact of_all rfl
    split
    · next small => exact cons (by decide) (cons (by decide) (hex4 small))
    · next large => exact cons (by omega) nil

theorem stringText (t : Text) : Clean (stringText t) := by
  refine append (cons (by decide) fun d held => ?_) (cons (by decide) nil)
  obtain ⟨c, -, held⟩ := List.mem_flatMap.mp held
  exact escapeChar c d held

theorem numeral (n : Nat) : Clean (Text.numeral n) := by
  intro c held
  have digit := Text.isDigit_of_mem_numeral held
  simp only [Char.isDigit, Bool.and_eq_true, decide_eq_true_eq] at digit
  have low : 48 ≤ c.toNat := UInt32.le_iff_toNat_le.mp digit.1
  omega

theorem numberText {n : JsonNumber} (whole : n.IsWhole) : Clean (numberText n) := by
  cases n with
  | natural n => exact numeral n
  | negative n => exact cons (by decide) (numeral n)
  | float => exact whole.elim

theorem compactItems {items : List Json} (each : ∀ item ∈ items, Clean item.compact) :
    Clean (compactItems items) := by
  induction items with
  | nil => exact nil
  | cons item items ih =>
    obtain ⟨first, others⟩ := List.forall_mem_cons.mp each
    cases items with
    | nil =>
      rw [Json.compactItems]
      exact first
    | cons next items =>
      rw [Json.compactItems]
      exact append first (cons (by decide) (ih others))

theorem compactMembers {members : Members} (each : ∀ m ∈ members, Clean m.2.compact) :
    Clean (compactMembers members) := by
  induction members with
  | nil => exact nil
  | cons member members ih =>
    obtain ⟨first, others⟩ := List.forall_mem_cons.mp each
    obtain ⟨key, value⟩ := member
    have opening : Clean (Json.stringText key ++ ':' :: value.compact) :=
      append (stringText key) (cons (by decide) first)
    cases members with
    | nil =>
      rw [Json.compactMembers]
      exact opening
    | cons next members =>
      rw [Json.compactMembers]
      exact append opening (cons (by decide) (ih others))

end Clean

/-- A value on one line is a text without control characters. -/
theorem Readable.clean {depth : Nat} {j : Json} (readable : j.Readable depth) :
    Clean j.compact := by
  induction readable with
  | null => exact .of_all rfl
  | bool b => cases b <;> exact .of_all rfl
  | number whole => exact .numberText whole
  | string t => exact .stringText t
  | array _ ih =>
    rw [compact]
    exact .append (.cons (by decide) (.compactItems ih)) (.cons (by decide) .nil)
  | object _ _ ih =>
    rw [compact]
    exact .append (.cons (by decide) (.compactMembers ih)) (.cons (by decide) .nil)

end SchemaLint.Json
