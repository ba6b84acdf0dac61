import SchemaLint.Proofs.Issue.Stream
import SchemaLint.Proofs.Line.Classify
import SchemaLint.Proofs.Run.Pass

/-!
# Lines that a writer gets over

A writer whose output has no limit refuses nothing, so a pass that writes issues is
decided by the lines alone. `Resolved` says that none of some lines stops it, and
`Offends` that the next one does, because it cannot be read or its record is in no
discovered file. One or the other is the case (`resolved_or_offends`). The writer is
left with the stream of all issues before the line that offends (`Resolved.passed`).
-/

namespace SchemaLint

open Line (classify)

/-- The lines are read as records, each of them kept back or in a discovered file. -/
def Resolved (d : Discovery) (lines : List Text) (records : List Record) : Prop :=
  lines.map classify = records.map .ok ∧
    ∀ r ∈ records, r.isSuppressed = true ∨ ∃ file, d.find? r.file = some file

/-- The line cannot be read, or its record is in no discovered file. -/
def Offends (d : Discovery) (line : Text) : Prop :=
  (∃ e, classify line = .error e) ∨
    ∃ r, classify line = .ok r ∧ r.isSuppressed = false ∧ d.find? r.file = none

section

variable {d : Discovery} {line : Text} {lines : List Text} {r : Record} {records : List Record}

theorem Resolved.nil : Resolved d [] [] := ⟨rfl, nofun⟩

theorem resolved_cons_iff : Resolved d (line :: lines) (r :: records) ↔
    (classify line = .ok r ∧ (r.isSuppressed = true ∨ ∃ file, d.find? r.file = some file)) ∧
      Resolved d lines records := by
  rw [Resolved, Resolved, List.map_cons, List.map_cons, List.cons.injEq, List.forall_mem_cons]
  constructor
  · rintro ⟨⟨read, reads⟩, first, others⟩
    exact ⟨⟨read, first⟩, reads, others⟩
  · rintro ⟨⟨read, first⟩, reads, others⟩
    exact ⟨⟨read, reads⟩, first, others⟩

/-- A line offends, or its record is kept back or in a discovered file. -/
theorem resolves_or_offends (d : Discovery) (line : Text) :
    (∃ r, classify line = .ok r ∧ (r.isSuppressed = true ∨ ∃ file, d.find? r.file = some file)) ∨
      Offends d line := by
  cases read : classify line with
  | error e => exact Or.inr (Or.inl ⟨e, read⟩)
  | ok r =>
    cases suppressed : r.isSuppressed with
    | true => exact Or.inl ⟨r, rfl, Or.inl suppressed⟩
    | false =>
      cases known : d.find? r.file with
      | none => exact Or.inr (Or.inr ⟨r, read, suppressed, known⟩)
      | some file => exact Or.inl ⟨r, rfl, Or.inr ⟨file, known⟩⟩

/-- Either no line offends or there is a first that does. -/
theorem resolved_or_offends (d : Discovery) (lines : List Text) :
    (∃ records, Resolved d lines records) ∨
      ∃ before line after records, lines = before ++ line :: after ∧
        Resolved d before records ∧ Offends d line := by
  induction lines with
  | nil => exact Or.inl ⟨[], .nil⟩
  | cons line lines ih =>
    rcases resolves_or_offends d line with ⟨r, first⟩ | offends
    · rcases ih with ⟨records, others⟩ | ⟨before, last, after, records, rfl, others, offends⟩
      · exact Or.inl ⟨r :: records, resolved_cons_iff.mpr ⟨first, others⟩⟩
      · exact Or.inr ⟨line :: before, last, after, r :: records, rfl,
          resolved_cons_iff.mpr ⟨first, others⟩, offends⟩
    · exact Or.inr ⟨[], line, lines, [], rfl, .nil, offends⟩

/-- A writer takes the issues of lines that do not offend, and writes them all. -/
theorem Resolved.passed (resolved : Resolved d lines records) (written : List Issue) :
    Passed d IssueWriter.emit lines (.having written) records
      (.having (written ++ (issues d records).map (·.2))) := by
  induction lines generalizing records written with
  | nil =>
    have empty : records = [] := by simpa using resolved.1.symm
    rw [empty, issues, List.filterMap_nil, List.map_nil, List.append_nil]
    exact .nil
  | cons line lines ih =>
    cases records with
    | nil => simp [Resolved] at resolved
    | cons r records =>
      obtain ⟨⟨read, first⟩, others⟩ := resolved_cons_iff.mp resolved
      cases suppressed : r.isSuppressed with
      | true =>
        rw [issues_cons_of_isSuppressed suppressed]
        exact .kept read suppressed (ih others written)
      | false =>
        obtain ⟨file, known⟩ := first.resolve_left (by simp [suppressed])
        obtain ⟨i, made⟩ := exists_issue suppressed known
        have emitted := IssueWriter.emit_having r i written
        have rest := ih others (written ++ [i])
        rw [List.append_assoc, List.singleton_append] at rest
        rw [issues_cons_of_issue made, List.map_cons]
        refine .taken read made (by rw [emitted]) ?_
        rw [emitted]
        exact rest

/-- A line that offends fails before its issue is given to a sink. -/
theorem Offends.fails {σ : Type} (offends : Offends d line) (sink : Sink σ) (s : σ) :
    ∃ e read, Fails d sink line s e read [] s := by
  rcases offends with ⟨e, unreadable⟩ | ⟨r, read, reported, unknown⟩
  · exact ⟨_, _, .unreadable unreadable⟩
  · exact ⟨_, _, .unresolved read reported unknown⟩

theorem mem_issues {call : Record × Issue} (held : call ∈ issues d records) :
    call.1 ∈ records ∧ call.1.issue d = .ok (some call.2) := by
  obtain ⟨r, present, given⟩ := List.mem_filterMap.mp held
  split at given
  · next i made =>
    cases given
    exact ⟨present, made⟩
  · cases given

/-- The positions of the issues of lines fit. -/
theorem Resolved.fits (resolved : Resolved d lines records) :
    ∀ i ∈ (issues d records).map (·.2), i.Fits := by
  intro i held
  obtain ⟨call, present, rfl⟩ := List.mem_map.mp held
  obtain ⟨recorded, made⟩ := mem_issues present
  have read : .ok call.1 ∈ lines.map classify := by
    rw [resolved.1]
    exact List.mem_map_of_mem recorded
  obtain ⟨line, -, read⟩ := List.mem_map.mp read
  obtain ⟨line, column⟩ := Line.isPosition_of_classify read
  have wide : Text.maxWord32 ≤ Text.maxWord64 := by decide
  exact Record.fits_of_issue made (Nat.le_trans line.2 wide) (Nat.le_trans column.2 wide)

end

end SchemaLint
