import Mathlib.Data.Option.Basic
import SchemaLint.Pattern.Reader
import SchemaLint.Proofs.Pattern.Matcher

/-!
# What is read is in order

A pattern that was read has no repetition whose counts end before they start
(`bounded_of_read?`). Counts come from `readRepetition` alone, which refuses such
ones; every other step of the reader puts together patterns that are there already.
So all patterns that a reading holds stay `Bounded` (`Reading.Bounded`), step by step
and through a whole text.
-/

namespace SchemaLint.Pattern

/-! ## Counts -/

/-- Counts that are read start no later than they end. -/
theorem le_of_readBounds {t rest : Text} {bounds : Nat × Option Nat}
    (read : readBounds t = some (bounds, rest)) : ∀ m ∈ bounds.2, bounds.1 ≤ m := by
  unfold readBounds at read
  obtain ⟨⟨least, t⟩, -, read⟩ := Option.bind_eq_some_iff.mp read
  dsimp only at read
  split at read
  · cases read
    rintro _ ⟨⟩
    exact Nat.le_refl _
  · cases read
    exact nofun
  · obtain ⟨⟨most, t⟩, -, read⟩ := Option.bind_eq_some_iff.mp read
    obtain ⟨_, ordered, read⟩ := Option.bind_eq_some_iff.mp read
    dsimp only at read
    split at read
    · cases read
      rintro _ ⟨⟩
      exact (Option.guard_eq_some' _).mp ordered
    · cases read
  · cases read

theorem le_of_readRepetition {t rest : Text} {bounds : Nat × Option Nat}
    (read : readRepetition t = some (bounds, rest)) : ∀ m ∈ bounds.2, bounds.1 ≤ m := by
  unfold readRepetition at read
  dsimp only at read
  -- In each case a question mark at the end changes no counts.
  split at read
  · obtain ⟨counts, ⟨⟩, read⟩ := Option.bind_eq_some_iff.mp read
    split at read <;> cases read <;> simp
  · obtain ⟨counts, ⟨⟩, read⟩ := Option.bind_eq_some_iff.mp read
    split at read <;> cases read <;> simp
  · obtain ⟨counts, ⟨⟩, read⟩ := Option.bind_eq_some_iff.mp read
    split at read <;> cases read <;> simp
  · obtain ⟨⟨counts, after⟩, counted, read⟩ := Option.bind_eq_some_iff.mp read
    split at read <;> cases read <;> exact le_of_readBounds counted
  · cases read

/-! ## Groups -/

/-- All patterns of a group are in order. -/
structure OpenGroup.Bounded (g : OpenGroup) : Prop where
  branches : ∀ b ∈ g.branches, b.value.Bounded
  items : ∀ item ∈ g.items, ∀ p ∈ item.value, p.Bounded

theorem bounded_foldl {combine : Pattern → Pattern → Pattern}
    (each : ∀ p q, p.Bounded → q.Bounded → (combine p q).Bounded) {ps : List Pattern} {p : Pattern}
    (first : p.Bounded) (rest : ∀ q ∈ ps, q.Bounded) : (ps.foldl combine p).Bounded := by
  induction ps generalizing p with
  | nil => exact first
  | cons q ps ih =>
    obtain ⟨next, others⟩ := List.forall_mem_cons.mp rest
    exact ih (each p q first next) others

theorem bounded_sequence {items : List (Sized (Option Pattern))}
    (each : ∀ item ∈ items, ∀ p ∈ item.value, p.Bounded) : (sequence items).value.Bounded := by
  have all : ∀ p ∈ items.reverse.filterMap (·.value), p.Bounded := by
    intro p held
    obtain ⟨item, present, value⟩ := List.mem_filterMap.mp held
    exact each item (List.mem_reverse.mp present) p value
  unfold sequence
  split
  · exact .empty
  · next p ps found =>
    rw [found] at all
    obtain ⟨first, rest⟩ := List.forall_mem_cons.mp all
    exact bounded_foldl (fun _ _ => .seq) first rest

namespace OpenGroup.Bounded

variable {g : OpenGroup}

theorem start (flags : Flags) : (OpenGroup.start flags).Bounded := ⟨nofun, nofun⟩

theorem add (bounded : g.Bounded) {p : Pattern} (one : p.Bounded) (height : Nat) :
    (g.add p height).Bounded := by
  refine ⟨bounded.branches, List.forall_mem_cons.mpr ⟨?_, bounded.items⟩⟩
  rintro _ ⟨⟩
  exact one

theorem pattern (bounded : g.Bounded) : g.pattern.value.Bounded := by
  have all : ∀ p ∈ (sequence g.items :: g.branches).map (·.value), p.Bounded := by
    rw [List.map_cons]
    refine List.forall_mem_cons.mpr ⟨bounded_sequence bounded.items, fun p held => ?_⟩
    obtain ⟨b, present, rfl⟩ := List.mem_map.mp held
    exact bounded.branches b present
  unfold OpenGroup.pattern
  dsimp only
  split
  · exact .empty
  · next p ps found =>
    rw [found] at all
    obtain ⟨first, rest⟩ := List.forall_mem_cons.mp all
    exact bounded_foldl (fun _ _ left right => .alt right left) first rest

end OpenGroup.Bounded

/-! ## Readings -/

/-- All patterns of a reading are in order. -/
structure Reading.Bounded (r : Reading) : Prop where
  group : r.group.Bounded
  outer : ∀ g ∈ r.outer, g.Bounded

namespace Reading.Bounded

variable {r r' : Reading} {t rest : Text}

theorem initial : Reading.initial.Bounded := ⟨.start {}, nofun⟩

theorem add (bounded : r.Bounded) {p : Pattern} (one : p.Bounded) (height : Nat) :
    (r.add p height).Bounded := ⟨bounded.group.add one height, bounded.outer⟩

theorem openGroup (bounded : r.Bounded) (flags : Flags) : (r.openGroup flags).Bounded :=
  ⟨.start _, List.forall_mem_cons.mpr ⟨bounded.group, bounded.outer⟩⟩

theorem closeGroup (bounded : r.Bounded) (closed : r.closeGroup = some r') : r'.Bounded := by
  unfold Reading.closeGroup at closed
  split at closed
  · cases closed
  · next parent outer found =>
    cases closed
    have around := bounded.outer
    rw [found] at around
    obtain ⟨above, others⟩ := List.forall_mem_cons.mp around
    exact ⟨above.add bounded.group.pattern _, others⟩

theorem repeatLast (bounded : r.Bounded) {bounds : Nat × Option Nat}
    (ordered : ∀ m ∈ bounds.2, bounds.1 ≤ m) (repeated : r.repeatLast bounds = some r') :
    r'.Bounded := by
  unfold Reading.repeatLast at repeated
  split at repeated
  · next p height items found =>
    cases repeated
    have all := bounded.group.items
    rw [found] at all
    obtain ⟨last, others⟩ := List.forall_mem_cons.mp all
    refine ⟨⟨bounded.group.branches, List.forall_mem_cons.mpr ⟨?_, others⟩⟩, bounded.outer⟩
    rintro _ ⟨⟩
    exact .loop (last p rfl) ordered
  · cases repeated

/-- A group that opens, with or without a name, and a switch of flags leave the
patterns as they are. -/
theorem openNamed (bounded : r.Bounded) (name : Text) :
    ({ r with names := name :: r.names }.openGroup r.flags).Bounded :=
  openGroup (r := { r with names := name :: r.names }) ⟨bounded.group, bounded.outer⟩ r.flags

theorem readGroup (bounded : r.Bounded) (read : r.readGroup t = some (r', rest)) : r'.Bounded := by
  unfold Reading.readGroup at read
  split at read
  · obtain ⟨⟨name, after⟩, -, read⟩ := Option.bind_eq_some_iff.mp read
    obtain ⟨_, -, read⟩ := Option.bind_eq_some_iff.mp read
    cases read
    exact bounded.openNamed name
  · cases read
  · cases read
  · obtain ⟨⟨name, after⟩, -, read⟩ := Option.bind_eq_some_iff.mp read
    obtain ⟨_, -, read⟩ := Option.bind_eq_some_iff.mp read
    cases read
    exact bounded.openNamed name
  · obtain ⟨flags, -, read⟩ := Option.bind_eq_some_iff.mp read
    dsimp only at read
    split at read
    · cases read
      exact bounded.openGroup flags
    · obtain ⟨_, -, read⟩ := Option.bind_eq_some_iff.mp read
      cases read
      exact ⟨⟨bounded.group.branches, List.forall_mem_cons.mpr ⟨nofun, bounded.group.items⟩⟩,
        bounded.outer⟩
    · cases read
  · cases read
    exact bounded.openGroup r.flags

/-- A bracketed set becomes an item when it closes; until then the group stays as
it is. -/
theorem readInSet (bounded : r.Bounded) {o : OpenSet} {outer : List OpenSet}
    (read : r.readInSet o outer t = some (r', rest)) : r'.Bounded := by
  unfold Reading.readInSet at read
  dsimp only at read
  split at read
  · split at read <;> cases read <;> exact ⟨bounded.group, bounded.outer⟩
  · split at read
    · cases read
      exact add (r := { r with sets := [] }) ⟨bounded.group, bounded.outer⟩ .one _
    · cases read
      exact ⟨bounded.group, bounded.outer⟩
  · cases read
    exact ⟨bounded.group, bounded.outer⟩
  · cases read
    exact ⟨bounded.group, bounded.outer⟩
  · cases read
    exact ⟨bounded.group, bounded.outer⟩
  · obtain ⟨_, -, same⟩ := Option.map_eq_some_iff.mp read
    cases same
    exact ⟨bounded.group, bounded.outer⟩

theorem readItem (bounded : r.Bounded) (read : r.readItem t = some (r', rest)) : r'.Bounded := by
  unfold Reading.readItem at read
  split at read
  · cases read
  · exact bounded.readGroup read
  · obtain ⟨closed, found, same⟩ := Option.map_eq_some_iff.mp read
    cases same
    exact bounded.closeGroup found
  · cases read
    have branch := bounded_sequence bounded.group.items
    exact ⟨⟨List.forall_mem_cons.mpr ⟨branch, bounded.group.branches⟩, nofun⟩, bounded.outer⟩
  · cases read
    exact ⟨bounded.group, bounded.outer⟩
  · obtain ⟨⟨escape, after⟩, -, same⟩ := Option.map_eq_some_iff.mp read
    cases escape with
    | literal c =>
      cases same
      exact bounded.add .one _
    | set s =>
      cases same
      exact bounded.add .one _
    | assertion a =>
      cases same
      exact bounded.add .assert _
  · cases read
    exact bounded.add .one _
  · cases read
    exact bounded.add .assert _
  · cases read
    exact bounded.add .assert _
  · split at read
    · obtain ⟨⟨bounds, after⟩, counted, read⟩ := Option.bind_eq_some_iff.mp read
      obtain ⟨repeated, found, same⟩ := Option.bind_eq_some_iff.mp read
      cases same
      exact bounded.repeatLast (le_of_readRepetition counted) found
    · cases read
      exact bounded.add .one _

theorem step (bounded : r.Bounded) (read : r.step t = some (r', rest)) : r'.Bounded := by
  unfold Reading.step at read
  split at read
  · exact bounded.readItem read
  · exact bounded.readInSet read

/-- A whole text is read step by step. -/
theorem readFrom (bounded : r.Bounded) {skip : Nat} (read : Pattern.readFrom r skip t = some r') :
    r'.Bounded := by
  induction t generalizing r skip with
  | nil =>
    rw [Pattern.readFrom] at read
    cases read
    exact bounded
  | cons c t ih =>
    cases skip with
    | zero =>
      rw [Pattern.readFrom] at read
      obtain ⟨⟨stepped, after⟩, found, read⟩ := Option.bind_eq_some_iff.mp read
      exact ih (bounded.step found) read
    | succ skip =>
      rw [Pattern.readFrom] at read
      exact ih bounded read

end Reading.Bounded

/-- A pattern that was read is in order. -/
theorem bounded_of_read? {t : Text} {p : Pattern} (read : read? t = some p) : p.Bounded := by
  unfold read? at read
  obtain ⟨r, found, read⟩ := Option.bind_eq_some_iff.mp read
  obtain ⟨_, -, read⟩ := Option.bind_eq_some_iff.mp read
  obtain ⟨_, -, read⟩ := Option.bind_eq_some_iff.mp read
  cases read
  exact (Reading.Bounded.initial.readFrom found).group.pattern

end SchemaLint.Pattern
