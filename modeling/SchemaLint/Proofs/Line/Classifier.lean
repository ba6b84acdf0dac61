import SchemaLint.Line.Classify

/-!
# Classifying a line at a time

The results that a classifier has still to give are a list that its state determines
(`Classifier.due`): none once it has failed, and otherwise those of the lines that
remain, as far as the first error. A call takes the first of them off (`next_due`), blank
lines are passed over on the way, and so any number of calls gives that list one by one
and nothing after its end (`take_eq`).

The results of all lines at once are the same list, `classifyAll`, and it is the list of
what each line gives on its own, cut after its first error (`classifyAll_eq`).
-/

namespace SchemaLint

namespace Line

variable {line : Text} {before : List Text} {r : Record} {e : LineError}

/-! ## The results up to the first error -/

/-- The lines that are not blank. -/
def spoken (lines : List Text) : List Text := lines.filter fun line => !Text.isBlank line

/-- The results up to the first error, which is the last of them. -/
def upToError (results : List (Except LineError Record)) : List (Except LineError Record) :=
  results.takeWhile Except.isOk ++ (results.dropWhile Except.isOk).take 1

theorem upToError_cons_ok (results : List (Except LineError Record)) :
    upToError (.ok r :: results) = .ok r :: upToError results := rfl

theorem upToError_cons_error (results : List (Except LineError Record)) :
    upToError (.error e :: results) = [.error e] := rfl

theorem upToError_isPrefix (results : List (Except LineError Record)) :
    upToError results <+: results := by
  have whole : results.takeWhile Except.isOk ++ results.dropWhile Except.isOk = results :=
    List.takeWhile_append_dropWhile
  have cut : upToError results <+: results.takeWhile Except.isOk ++ results.dropWhile Except.isOk :=
    (List.prefix_append_right_inj _).mpr (List.take_prefix 1 _)
  rwa [whole] at cut

theorem spoken_cons_of_blank (blank : Text.isBlank line = true) (lines : List Text) :
    spoken (line :: lines) = spoken lines :=
  List.filter_cons_of_neg (by simp [blank])

theorem spoken_cons_of_spoken (isSpoken : Text.isBlank line = false) (lines : List Text) :
    spoken (line :: lines) = line :: spoken lines :=
  List.filter_cons_of_pos (by simp [isSpoken])

theorem classifyAll_cons_blank (blank : Text.isBlank line = true) (lines : List Text) :
    classifyAll (line :: lines) = classifyAll lines := by
  rw [classifyAll, if_pos blank]

theorem classifyAll_cons_ok (isSpoken : Text.isBlank line = false) (read : classify line = .ok r)
    (lines : List Text) : classifyAll (line :: lines) = .ok r :: classifyAll lines := by
  rw [classifyAll, if_neg (by simp [isSpoken]), read]

theorem classifyAll_cons_error (isSpoken : Text.isBlank line = false)
    (unreadable : classify line = .error e) (lines : List Text) :
    classifyAll (line :: lines) = [.error e] := by
  rw [classifyAll, if_neg (by simp [isSpoken]), unreadable]

/-- The results of lines are what each gives on its own, up to the first error. -/
theorem classifyAll_eq (lines : List Text) :
    classifyAll lines = upToError ((spoken lines).map classify) := by
  induction lines with
  | nil => rfl
  | cons line lines ih =>
    cases blank : Text.isBlank line with
    | true => rw [classifyAll_cons_blank blank, ih, spoken_cons_of_blank blank]
    | false =>
      rw [spoken_cons_of_spoken blank, List.map_cons]
      cases read : classify line with
      | ok r => rw [classifyAll_cons_ok blank read, ih, upToError_cons_ok]
      | error e => rw [classifyAll_cons_error blank read, upToError_cons_error]

/-- Nothing comes after the first error, whatever lines there are. -/
theorem classifyAll_append_error
    (readable : ∀ earlier ∈ before, Text.isBlank earlier = false → ∃ r, classify earlier = .ok r)
    (isSpoken : Text.isBlank line = false) (unreadable : classify line = .error e)
    (rest other : List Text) :
    classifyAll (before ++ line :: rest) = classifyAll (before ++ line :: other) := by
  induction before with
  | nil =>
    rw [List.nil_append, List.nil_append, classifyAll_cons_error isSpoken unreadable,
      classifyAll_cons_error isSpoken unreadable]
  | cons earlier before ih =>
    rcases List.forall_mem_cons.mp readable with ⟨first, others⟩
    rw [List.cons_append, List.cons_append]
    cases blank : Text.isBlank earlier with
    | true => rw [classifyAll_cons_blank blank, classifyAll_cons_blank blank, ih others]
    | false =>
      obtain ⟨r, read⟩ := first blank
      rw [classifyAll_cons_ok blank read, classifyAll_cons_ok blank read, ih others]

end Line

namespace Classifier

open Line

variable {line : Text} {before : List Text} {r : Record} {e : LineError}

/-! ## One call -/

theorem next_of_failed (rest : List Text) : next ⟨rest, true⟩ = (none, ⟨rest, true⟩) := rfl

theorem next_cons_blank (blank : Text.isBlank line = true) (rest : List Text) :
    next ⟨line :: rest, false⟩ = next ⟨rest, false⟩ := by
  unfold next
  rw [List.dropWhile_cons_of_pos blank]
  rfl

theorem next_cons_ok (isSpoken : Text.isBlank line = false) (read : classify line = .ok r)
    (rest : List Text) : next ⟨line :: rest, false⟩ = (some (.ok r), ⟨rest, false⟩) := by
  simp [next, isSpoken, read]

theorem next_cons_error (isSpoken : Text.isBlank line = false)
    (unreadable : classify line = .error e) (rest : List Text) :
    next ⟨line :: rest, false⟩ = (some (.error e), ⟨rest, true⟩) := by
  simp [next, isSpoken, unreadable]

/-- The results that a classifier has still to give. -/
def due (c : Classifier) : List (Except LineError Record) :=
  if c.hasFailed then [] else classifyAll c.remaining

/-- A call gives the first result that is due and leaves the others. -/
theorem next_due (c : Classifier) : c.next.1 = c.due.head? ∧ c.next.2.due = c.due.tail := by
  rcases c with ⟨remaining, hasFailed⟩
  cases hasFailed with
  | true => exact ⟨rfl, rfl⟩
  | false =>
    have going (rest : List Text) : due ⟨rest, false⟩ = classifyAll rest := rfl
    have failed (rest : List Text) : due ⟨rest, true⟩ = [] := rfl
    -- The call passes over the blank lines in front and stops at the first other one.
    induction remaining with
    | nil => exact ⟨rfl, rfl⟩
    | cons line rest ih =>
      cases blank : Text.isBlank line with
      | true =>
        rw [next_cons_blank blank, going, classifyAll_cons_blank blank]
        exact ih
      | false =>
        cases read : classify line with
        | ok r =>
          rw [next_cons_ok blank read, going, classifyAll_cons_ok blank read]
          exact ⟨rfl, going rest⟩
        | error e =>
          rw [next_cons_error blank read, going, classifyAll_cons_error blank read]
          exact ⟨rfl, failed rest⟩

/-! ## Any number of calls -/

/-- The classifier after a number of calls. -/
def afterCalls : Nat → Classifier → Classifier
  | 0, c => c
  | calls + 1, c => afterCalls calls c.next.2

/-- Calls give the results that are due, in order, and none after the last. -/
theorem take_eq (calls : Nat) (c : Classifier) :
    take calls c = (List.range calls).map fun call => c.due[call]? := by
  induction calls generalizing c with
  | zero => rfl
  | succ calls ih =>
    obtain ⟨given, left⟩ := next_due c
    rw [take, ih, given, left, List.range_succ_eq_map, List.map_cons, List.map_map,
      List.head?_eq_getElem?]
    refine congrArg _ (List.map_congr_left fun call _ => ?_)
    exact List.getElem?_tail

theorem due_ofLines (lines : List Text) : (ofLines lines).due = classifyAll lines := rfl

/-- The lines after the first that cannot be read are never taken. -/
theorem suffix_afterCalls
    (readable : ∀ earlier ∈ before, Text.isBlank earlier = false → ∃ r, classify earlier = .ok r)
    (isSpoken : Text.isBlank line = false) (unreadable : classify line = .error e)
    (rest : List Text) (calls : Nat) :
    rest <:+ (afterCalls calls ⟨before ++ line :: rest, false⟩).remaining := by
  have stays (calls : Nat) : afterCalls calls ⟨rest, true⟩ = ⟨rest, true⟩ := by
    induction calls with
    | zero => rfl
    | succ calls ih => rw [afterCalls, next_of_failed, ih]
  induction before generalizing calls with
  | nil =>
    cases calls with
    | zero => exact List.suffix_cons line rest
    | succ calls =>
      have stopped : afterCalls (calls + 1) ⟨[] ++ line :: rest, false⟩ = ⟨rest, true⟩ := by
        rw [List.nil_append, afterCalls, next_cons_error isSpoken unreadable, stays]
      exact stopped ▸ List.suffix_rfl
  | cons earlier before ih =>
    rcases List.forall_mem_cons.mp readable with ⟨first, others⟩
    cases calls with
    | zero =>
      apply List.IsSuffix.trans (List.suffix_cons line rest)
      exact List.suffix_append (earlier :: before) _
    | succ calls =>
      rw [List.cons_append, afterCalls]
      cases blank : Text.isBlank earlier with
      | true =>
        rw [next_cons_blank blank]
        exact ih others (calls + 1)
      | false =>
        obtain ⟨r, read⟩ := first blank
        rw [next_cons_ok blank read]
        exact ih others calls

/-- Successive calls give what each line that is not blank gives on its own, in order, up
to the first error, and nothing for ever after. So a result is that of its own line, no
line after the first error has a part in any of them or is taken at all, and a blank line
neither has a result nor ends the sequence. -/
theorem take_ofLines (lines : List Text) :
    (∀ calls, (ofLines lines).take calls =
      (List.range calls).map fun call => (upToError ((spoken lines).map classify))[call]?) ∧
    (∀ (calls call : Nat) result, ((ofLines lines).take calls)[call]? = some (some result) →
      ∃ line, (spoken lines)[call]? = some line ∧ result = classify line) ∧
    (∀ before line rest e, lines = before ++ line :: rest →
      (∀ earlier ∈ before, Text.isBlank earlier = false → ∃ r, classify earlier = .ok r) →
      Text.isBlank line = false → classify line = .error e →
      (∀ calls, rest <:+ ((ofLines lines).afterCalls calls).remaining) ∧
        ∀ other calls,
          (ofLines (before ++ line :: other)).take calls = (ofLines lines).take calls) ∧
    ∀ before blank rest, lines = before ++ blank :: rest → Text.isBlank blank = true →
      ∀ calls, (ofLines lines).take calls = (ofLines (before ++ rest)).take calls := by
  have results (lines : List Text) (calls : Nat) : (ofLines lines).take calls =
      (List.range calls).map fun call => (upToError ((spoken lines).map classify))[call]? := by
    rw [take_eq, due_ofLines, classifyAll_eq]
  refine ⟨results lines, ?_, ?_, ?_⟩
  · intro calls call result given
    rw [results, List.getElem?_map, Option.map_eq_some_iff] at given
    obtain ⟨place, held, given⟩ := given
    obtain ⟨bound, same⟩ := List.getElem?_eq_some_iff.mp held
    rw [List.getElem_range] at same
    subst same
    obtain ⟨later, whole⟩ := upToError_isPrefix ((spoken lines).map classify)
    obtain ⟨inside, -⟩ := List.getElem?_eq_some_iff.mp given
    rw [← List.getElem?_append_left inside, whole, List.getElem?_map, Option.map_eq_some_iff]
      at given
    obtain ⟨line, turn, result⟩ := given
    exact ⟨line, turn, result.symm⟩
  · intro before line rest e split readable isSpoken unreadable
    subst split
    refine ⟨suffix_afterCalls readable isSpoken unreadable rest, fun other calls => ?_⟩
    rw [take_eq, take_eq, due_ofLines, due_ofLines,
      classifyAll_append_error readable isSpoken unreadable other rest]
  · intro before blank rest split isBlank calls
    have skipped : spoken lines = spoken (before ++ rest) := by
      rw [split, spoken, List.filter_append, List.filter_cons_of_neg (by simp [isBlank]),
        ← List.filter_append, spoken]
    rw [results, results, skipped]

/-- A record, a line that cannot be read, and a line after it that could be, with blank
lines between them. -/
theorem take_ofLines_stopped :
    let lines : List Text :=
      [[], "x.proto:3:7: Missing field number.", [' '], "?", "y.proto: File not found."]
    (ofLines lines).take 4 =
        [some (classify "x.proto:3:7: Missing field number."), some (.error ⟨.unrecognized, "?"⟩),
          none, none] ∧
      (∀ calls, [("y.proto: File not found." : Text)] <:+
        ((ofLines lines).afterCalls calls).remaining) ∧
      ∀ calls, (ofLines lines).take calls = (ofLines lines.tail).take calls := by
  intro lines
  obtain ⟨results, own, stops, skips⟩ := take_ofLines lines
  have read : classify "x.proto:3:7: Missing field number." =
      .ok (.make (.compile .missingFieldNumber) .compiler "x.proto:3:7: Missing field number."
        "x.proto" 3 7 none) := by
    rfl
  have unreadable : classify "?" = .error ⟨.unrecognized, "?"⟩ := by rfl
  have inOrder : spoken lines =
      (["x.proto:3:7: Missing field number.", "?", "y.proto: File not found."] : List Text) := by
    decide
  have readable : ∀ earlier ∈ ([[], "x.proto:3:7: Missing field number.", [' ']] : List Text),
      Text.isBlank earlier = false → ∃ r, classify earlier = .ok r := by
    refine List.forall_mem_cons.mpr ⟨fun isSpoken => absurd isSpoken (by decide), ?_⟩
    refine List.forall_mem_cons.mpr ⟨fun _ => ⟨_, read⟩, ?_⟩
    exact List.forall_mem_singleton.mpr fun isSpoken => absurd isSpoken (by decide)
  refine ⟨?_, (stops _ "?" _ _ rfl readable (by decide) unreadable).1, skips [] [] _ rfl rfl⟩
  rw [results, inOrder, List.map_cons, List.map_cons, unreadable, read, upToError_cons_ok,
    upToError_cons_error]
  rfl

end Classifier

end SchemaLint
