import Mathlib.Data.List.Nodup
import Mathlib.Data.List.Perm.Subperm
import Mathlib.Logic.Function.Iterate
import SchemaLint.Pattern.Matcher

/-!
# The matcher finds all matches

`ends` lists the positions where a match can end, and `Matches` says by rules where
matches are. For a pattern whose counts are in order (`Bounded`) the two agree
(`mem_ends_iff`), so what the search finds is the leftmost match
(`leftmost?_eq_some_iff`).

All of the work is in repetitions. A repetition is a number of steps of its body
(`matches_loop_iff`), and the matcher takes steps of sets of positions: first the
least number (`mem_stepTimes_iff`), then as many as are allowed, as long as they
lead to something new. With an upper bound every position that so many steps reach
is found (`mem_reach_iff`). Without one the matcher stops after as many rounds as
there are positions, and then no step leads anywhere new (`reach_closed`).
-/

namespace SchemaLint.Pattern

/-- The counts of every repetition end no earlier than they start. -/
inductive Bounded : Pattern → Prop where
  | empty : Bounded .empty
  | one {set : CharSet} : Bounded (.one set)
  | assert {condition : Assertion} : Bounded (.assert condition)
  | seq {p q : Pattern} (first : Bounded p) (second : Bounded q) : Bounded (.seq p q)
  | alt {p q : Pattern} (left : Bounded p) (right : Bounded q) : Bounded (.alt p q)
  | loop {p : Pattern} {least : Nat} {most : Option Nat} (body : Bounded p)
      (ordered : ∀ m ∈ most, least ≤ m) : Bounded (.loop p least most)

/-! ## Steps -/

section

variable {R S : Nat → Nat → Prop} {i j k m n : Nat}

/-- A number of steps that lead from one position to another. -/
def Steps (R : Nat → Nat → Prop) : Nat → Nat → Nat → Prop
  | 0, i, k => i = k
  | n + 1, i, k => ∃ j, R i j ∧ Steps R n j k

theorem steps_add : Steps R (m + n) i k ↔ ∃ j, Steps R m i j ∧ Steps R n j k := by
  induction m generalizing i with
  | zero => simp [Steps]
  | succ m ih =>
    rw [Nat.succ_add]
    constructor
    · rintro ⟨j, step, rest⟩
      obtain ⟨l, before, after⟩ := ih.mp rest
      exact ⟨l, ⟨j, step, before⟩, after⟩
    · rintro ⟨l, ⟨j, step, before⟩, after⟩
      exact ⟨j, step, ih.mpr ⟨l, before, after⟩⟩

/-- Steps that agree on the positions up to a bound lead to the same positions. -/
theorem steps_congr {bound : Nat} (stays : ∀ i j, i ≤ bound → R i j → j ≤ bound)
    (same : ∀ i j, i ≤ bound → (S i j ↔ R i j)) (within : i ≤ bound) :
    Steps S n i k ↔ Steps R n i k := by
  induction n generalizing i with
  | zero => rfl
  | succ n ih =>
    refine exists_congr fun j => ?_
    rw [same i j within]
    exact and_congr_right fun step => ih (stays i j within step)

/-- A set that no step leaves holds whatever steps from it lead to. -/
theorem Steps.mem {seen : List Nat} (closed : ∀ i ∈ seen, ∀ j, R i j → j ∈ seen) (start : i ∈ seen)
    (steps : Steps R n i k) : k ∈ seen := by
  induction n generalizing i with
  | zero => exact steps ▸ start
  | succ n ih =>
    obtain ⟨j, step, rest⟩ := steps
    exact ih (closed i start j step) rest

end

/-- A repetition matches by as many matches of its body as the counts allow. -/
theorem matches_loop_iff {t : Text} {p : Pattern} {least : Nat} {most : Option Nat} {i k : Nat} :
    Matches t (.loop p least most) i k ↔
      ∃ n, least ≤ n ∧ (∀ m ∈ most, n ≤ m) ∧ Steps (Matches t p) n i k := by
  constructor
  · intro matched
    generalize whole : Pattern.loop p least most = q at matched
    induction matched generalizing least most with
    | empty | one | assert | seq | altLeft | altRight => cases whole
    | loopDone =>
      cases whole
      exact ⟨0, Nat.le_refl 0, fun m _ => Nat.zero_le m, rfl⟩
    | @loopMore p least most i j k allowed first _ _ ih =>
      cases whole
      obtain ⟨n, enough, few, steps⟩ := ih rfl
      refine ⟨n + 1, by omega, fun m bound => ?_, j, first, steps⟩
      cases bound
      have fewer : n ≤ m - 1 := few (m - 1) rfl
      have some : m ≠ 0 := by
        rintro rfl
        exact allowed rfl
      omega
  · rintro ⟨n, enough, few, steps⟩
    induction n generalizing least most i with
    | zero =>
      obtain rfl : least = 0 := by omega
      cases steps
      exact .loopDone
    | succ n ih =>
      obtain ⟨j, first, rest⟩ := steps
      have allowed : most ≠ some 0 := by
        rintro rfl
        exact absurd (few 0 rfl) (by omega)
      refine .loopMore allowed first (ih (by omega) (fun m bound => ?_) rest)
      obtain ⟨whole, given, rfl⟩ := Option.map_eq_some_iff.mp bound
      have := few whole given
      omega

/-- A match ends within the text, if it starts there. -/
theorem Matches.le_length {t : Text} {p : Pattern} {i j : Nat} (matched : Matches t p i j)
    (within : i ≤ t.length) : j ≤ t.length := by
  induction matched with
  | empty | assert | loopDone => exact within
  | one held => exact (List.getElem?_eq_some_iff.mp held).1
  | seq _ _ first second => exact second (first within)
  | altLeft _ ih | altRight _ ih => exact ih within
  | loopMore _ _ _ first rest => exact rest (first within)

/-! ## Sets of positions -/

theorem nodup_distinct (xs : List Nat) : (distinct xs).Nodup := by
  unfold distinct
  cases xs with
  | nil => exact .nil
  | cons x xs =>
    rw [List.eraseDups_cons, List.nodup_cons]
    constructor
    · simp [List.mem_eraseDups]
    · exact nodup_distinct (xs.filter fun y => !y == x)
termination_by xs.length
decreasing_by exact Nat.lt_succ_of_le (List.length_filter_le _ _)

theorem mem_distinct {xs : List Nat} {k : Nat} : k ∈ distinct xs ↔ k ∈ xs := List.mem_eraseDups

section

variable {R : Nat → Nat → Prop} {next : List Nat → List Nat} {seen : List Nat} {i k m n bound : Nat}

/-- A function that takes each set of positions to those one step further. -/
def Spreads (R : Nat → Nat → Prop) (next : List Nat → List Nat) : Prop :=
  ∀ seen k, k ∈ next seen ↔ ∃ i ∈ seen, R i k

theorem stepTimes_eq_iterate (n : Nat) (seen : List Nat) :
    stepTimes next n seen = (next^[n]) seen := by
  induction n generalizing seen with
  | zero => rfl
  | succ n ih =>
    rw [stepTimes, Function.iterate_succ_apply]
    split
    · next fixed => rw [fixed, Function.iterate_fixed fixed]
    · exact ih (next seen)

theorem mem_stepTimes_iff (spreads : Spreads R next) :
    k ∈ stepTimes next n seen ↔ ∃ i ∈ seen, Steps R n i k := by
  rw [stepTimes_eq_iterate]
  induction n generalizing seen with
  | zero => simp [Steps]
  | succ n ih =>
    rw [Function.iterate_succ_apply, ih]
    constructor
    · rintro ⟨j, stepped, rest⟩
      obtain ⟨i, start, step⟩ := (spreads seen j).mp stepped
      exact ⟨i, start, j, step, rest⟩
    · rintro ⟨i, start, j, step, rest⟩
      exact ⟨j, (spreads seen j).mpr ⟨i, start, step⟩, rest⟩

theorem nodup_stepTimes (distinct : ∀ xs, (next xs).Nodup) (start : seen.Nodup) :
    (stepTimes next n seen).Nodup := by
  rw [stepTimes_eq_iterate]
  cases n with
  | zero => exact start
  | succ n =>
    rw [Function.iterate_succ_apply']
    exact distinct _

/-- When a round adds no position, no step leads anywhere new. -/
theorem closed_of_length_eq (spreads : Spreads R next) (start : seen.Nodup)
    (nothing : (distinct (seen ++ next seen)).length = seen.length) :
    ∀ i ∈ seen, ∀ j, R i j → j ∈ seen := by
  intro i held j step
  have part : seen ⊆ distinct (seen ++ next seen) :=
    fun x present => mem_distinct.mpr (List.mem_append_left _ present)
  have same := (List.subperm_of_subset start part).perm_of_length_le (Nat.le_of_eq nothing)
  refine same.mem_iff.mpr (mem_distinct.mpr (List.mem_append_right _ ?_))
  exact (spreads seen j).mpr ⟨i, held, step⟩

/-- A round adds the positions one step further. -/
theorem mem_round_iff (spreads : Spreads R next) :
    k ∈ distinct (seen ++ next seen) ↔ k ∈ seen ∨ ∃ i ∈ seen, R i k := by
  rw [mem_distinct, List.mem_append, spreads seen k]

/-- What is found in a number of rounds is what at most so many steps reach. -/
theorem mem_reach_iff (spreads : Spreads R next) (start : seen.Nodup) :
    k ∈ reach next n seen ↔ ∃ m, m ≤ n ∧ ∃ i ∈ seen, Steps R m i k := by
  induction n generalizing seen with
  | zero =>
    constructor
    · exact fun held => ⟨0, Nat.le_refl 0, k, held, rfl⟩
    · rintro ⟨m, none, i, held, steps⟩
      obtain rfl : m = 0 := by omega
      exact steps ▸ held
  | succ n ih =>
    rw [reach]
    split
    · next nothing =>
      constructor
      · exact fun held => ⟨0, Nat.zero_le _, k, held, rfl⟩
      · rintro ⟨m, -, i, held, steps⟩
        exact steps.mem (closed_of_length_eq spreads start nothing) held
    · rw [ih (nodup_distinct _)]
      constructor
      · rintro ⟨m, few, i, held, steps⟩
        rcases (mem_round_iff spreads).mp held with held | ⟨j, held, step⟩
        · exact ⟨m, by omega, i, held, steps⟩
        · exact ⟨m + 1, by omega, j, held, i, step, steps⟩
      · rintro ⟨m, few, i, held, steps⟩
        cases m with
        | zero => exact ⟨0, Nat.zero_le _, i, (mem_round_iff spreads).mpr (Or.inl held), steps⟩
        | succ m =>
          obtain ⟨j, step, rest⟩ := steps
          exact ⟨m, by omega, j, (mem_round_iff spreads).mpr (Or.inr ⟨i, held, step⟩), rest⟩

/-- With a round for each position that is not there yet, all is found that any
number of steps reaches. -/
theorem reach_closed (spreads : Spreads R next) (stays : ∀ i j, i ≤ bound → R i j → j ≤ bound)
    (start : seen.Nodup) (within : ∀ i ∈ seen, i ≤ bound) (rounds : bound + 1 ≤ n + seen.length) :
    ∀ i ∈ reach next n seen, ∀ j, R i j → j ∈ reach next n seen := by
  induction n generalizing seen with
  | zero =>
    -- Every position is there from the beginning.
    have part : seen ⊆ List.range (bound + 1) :=
      fun x held => List.mem_range.mpr (Nat.lt_succ_of_le (within x held))
    have all := (List.subperm_of_subset start part).perm_of_length_le
      (by rw [List.length_range]; omega)
    intro i held j step
    exact all.mem_iff.mpr (List.mem_range.mpr (Nat.lt_succ_of_le (stays i j (within i held) step)))
  | succ n ih =>
    rw [reach]
    split
    · next nothing => exact closed_of_length_eq spreads start nothing
    · next more =>
      refine ih (nodup_distinct _) (fun i held => ?_) ?_
      · rcases (mem_round_iff spreads).mp held with held | ⟨j, held, step⟩
        · exact within i held
        · exact stays j i (within j held) step
      · have part : seen ⊆ distinct (seen ++ next seen) :=
          fun x held => (mem_round_iff spreads).mpr (Or.inl held)
        have := (List.subperm_of_subset start part).length_le
        omega

theorem mem_reach_iff_of_bound (spreads : Spreads R next)
    (stays : ∀ i j, i ≤ bound → R i j → j ≤ bound) (start : seen.Nodup)
    (within : ∀ i ∈ seen, i ≤ bound) (rounds : bound + 1 ≤ n + seen.length) :
    k ∈ reach next n seen ↔ ∃ m, ∃ i ∈ seen, Steps R m i k := by
  constructor
  · intro held
    obtain ⟨m, -, reached⟩ := (mem_reach_iff spreads start).mp held
    exact ⟨m, reached⟩
  · rintro ⟨m, i, held, steps⟩
    have first : i ∈ reach next n seen :=
      (mem_reach_iff spreads start).mpr ⟨0, Nat.zero_le _, i, held, rfl⟩
    exact steps.mem (reach_closed spreads stays start within rounds) first

end

/-! ## The matcher -/

section

variable {t : Text} {p q : Pattern} {least : Nat} {most : Option Nat} {i j : Nat}

/-- The matcher of a repetition, given that of its body. -/
theorem mem_ends_loop_iff (ordered : ∀ m ∈ most, least ≤ m) (within : i ≤ t.length)
    (body : ∀ i j, i ≤ t.length → (j ∈ ends t p i ↔ Matches t p i j)) :
    j ∈ ends t (.loop p least most) i ↔ Matches t (.loop p least most) i j := by
  have spreads : Spreads (fun i j => j ∈ ends t p i)
      (fun at_ => distinct (at_.flatMap fun j => ends t p j)) := by
    intro seen k
    rw [mem_distinct, List.mem_flatMap]
  have stays : ∀ i j, i ≤ t.length → j ∈ ends t p i → j ≤ t.length :=
    fun i j within ended => ((body i j within).mp ended).le_length within
  have same {n k : Nat} : Steps (fun i j => j ∈ ends t p i) n i k ↔ Steps (Matches t p) n i k :=
    steps_congr (fun i j within step => step.le_length within) body within
  have single : ([i] : List Nat).Nodup := List.nodup_singleton i
  have first := nodup_stepTimes (n := least)
    (fun xs => nodup_distinct (xs.flatMap fun j => ends t p j)) single
  have started {k : Nat} : k ∈ stepTimes
      (fun at_ => distinct (at_.flatMap fun j => ends t p j)) least [i] ↔
        Steps (fun i j => j ∈ ends t p i) least i k := by
    rw [mem_stepTimes_iff spreads]
    simp
  rw [matches_loop_iff]
  simp only [← same]
  cases most with
  | some most =>
    have bounds : least ≤ most := ordered most rfl
    rw [ends, mem_reach_iff spreads first]
    constructor
    · rintro ⟨m, few, l, reached, steps⟩
      refine ⟨least + m, by omega, ?_, steps_add.mpr ⟨l, started.mp reached, steps⟩⟩
      rintro _ ⟨⟩
      omega
    · rintro ⟨n, enough, few, steps⟩
      have bounded : n ≤ most := few most rfl
      obtain ⟨m, rfl⟩ := Nat.exists_eq_add_of_le enough
      obtain ⟨l, before, after⟩ := steps_add.mp steps
      exact ⟨m, by omega, l, started.mpr before, after⟩
  | none =>
    have inside : ∀ l ∈ stepTimes (fun at_ => distinct (at_.flatMap fun j => ends t p j)) least [i],
        l ≤ t.length := by
      intro l reached
      -- What a number of steps reaches is matched by that many repetitions.
      have steps := same.mp (started.mp reached)
      have matched : Matches t (.loop p least none) i l :=
        matches_loop_iff.mpr ⟨least, Nat.le_refl _, nofun, steps⟩
      exact matched.le_length within
    rw [ends, mem_reach_iff_of_bound spreads stays first inside (by omega)]
    constructor
    · rintro ⟨m, l, reached, steps⟩
      exact ⟨least + m, by omega, nofun, steps_add.mpr ⟨l, started.mp reached, steps⟩⟩
    · rintro ⟨n, enough, -, steps⟩
      obtain ⟨m, rfl⟩ := Nat.exists_eq_add_of_le enough
      obtain ⟨l, before, after⟩ := steps_add.mp steps
      exact ⟨m, l, started.mpr before, after⟩

/-- The matcher lists the positions where matches end. -/
theorem mem_ends_iff (bounded : p.Bounded) (within : i ≤ t.length) :
    j ∈ ends t p i ↔ Matches t p i j := by
  induction bounded generalizing i j with
  | empty =>
    rw [ends, List.mem_singleton]
    exact ⟨fun same => same ▸ .empty, fun matched => by cases matched; rfl⟩
  | one =>
    rw [ends]
    constructor
    · intro held
      split at held
      · next some =>
        obtain ⟨c, present, mem⟩ := (Option.any_eq_true _ _).mp some
        rw [List.mem_singleton.mp held]
        exact .one present mem
      · cases held
    · intro matched
      cases matched with
      | one present mem =>
        rw [present, Option.any_some, if_pos mem]
        exact List.mem_singleton_self _
  | assert =>
    rw [ends]
    constructor
    · intro held
      split at held
      · next holds =>
        rw [List.mem_singleton.mp held]
        exact .assert holds
      · cases held
    · intro matched
      cases matched with
      | assert holds =>
        rw [if_pos holds]
        exact List.mem_singleton_self _
  | seq _ _ first second =>
    rw [ends, mem_distinct, List.mem_flatMap]
    constructor
    · rintro ⟨l, reached, ended⟩
      have matched := (first within).mp reached
      exact .seq matched ((second (matched.le_length within)).mp ended)
    · intro whole
      cases whole with
      | seq matched rest =>
        exact ⟨_, (first within).mpr matched,
          (second (matched.le_length within)).mpr rest⟩
  | alt _ _ left right =>
    rw [ends, mem_distinct, List.mem_append, left within, right within]
    constructor
    · rintro (matched | matched)
      · exact .altLeft matched
      · exact .altRight matched
    · intro whole
      cases whole with
      | altLeft matched => exact Or.inl matched
      | altRight matched => exact Or.inr matched
  | loop _ ordered body => exact mem_ends_loop_iff ordered within fun i j inside => body inside

/-- The search gives the position where a match starts and none starts before. -/
theorem leftmost?_eq_some_iff (bounded : p.Bounded) :
    p.leftmost? t = some i ↔
      i ≤ t.length ∧ (∃ j, Matches t p i j) ∧ ∀ k < i, ¬ ∃ j, Matches t p k j := by
  have some {k : Nat} (within : k ≤ t.length) :
      (!(ends t p k).isEmpty) = true ↔ ∃ j, Matches t p k j := by
    rw [Bool.not_eq_true', List.isEmpty_eq_false_iff_exists_mem]
    exact exists_congr fun j => mem_ends_iff bounded within
  rw [leftmost?, List.find?_range_eq_some]
  constructor
  · rintro ⟨found, within, before⟩
    have inside : i ≤ t.length := Nat.le_of_lt_succ (List.mem_range.mp within)
    refine ⟨inside, (some inside).mp found, fun k earlier matched => ?_⟩
    have := before k earlier
    rw [(some (by omega)).mpr matched] at this
    cases this
  · rintro ⟨inside, matched, before⟩
    refine ⟨(some inside).mpr matched, List.mem_range.mpr (by omega), fun k earlier => ?_⟩
    rw [Bool.not_eq_true', ← Bool.not_eq_true]
    exact fun found => before k earlier ((some (by omega)).mp found)

end

end SchemaLint.Pattern
