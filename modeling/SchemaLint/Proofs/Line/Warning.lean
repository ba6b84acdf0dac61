import SchemaLint.Proofs.Line.Classify

/-!
# Warnings that look like compile errors

The style shape leaves every line with the warning mark alone, but the shape of
compile errors does not look for the mark and is tried before that of warnings.
So a warning is classified as one exactly when it has not also the shape of an
error (`CompileShaped`): a delimiter and, after it, the phrase of one. The name of
a schema file is enough for that, since the message of a warning quotes it.

The two shapes never agree on such a line: what `compile` makes of it names the
compiler as its origin or one of the faults of an error (`compile_of_shaped`), and
`internal` gives neither (`internal_of_marked`).
-/

namespace SchemaLint

open Text

theorem CompileError.mem_all (error : CompileError) : error ∈ all := by
  cases error <;> decide

namespace Line

variable {line : Text}

/-- The delimiter of compile errors divides the line once, and the message after
it holds the phrase of an error. -/
def CompileShaped (line : Text) : Prop :=
  ∃ locator message, ∃ error : CompileError,
    halves? compileDelimiter line = some (locator, message) ∧
      error.marker <:+: lowerCase (trim message)

theorem compileError?_eq_none_iff {message : Text} :
    compileError? message = none ↔ ∀ error : CompileError, ¬ error.marker <:+: lowerCase message := by
  simp only [compileError?, List.find?_eq_none, contains_iff]
  exact ⟨fun absent error => absent error error.mem_all,
    fun absent error _ => absent error⟩

/-! ## What each shape makes of a warning -/

theorem style_of_marked (marked : warningMark <:+: line) : style line = .ok none := by
  have warning : isInternalWarning line = true := contains_iff.mpr marked
  rw [style, if_pos warning]

/-- A line without the shape of a compile error is left to the other shapes. -/
theorem compile_of_not_shaped (shapeless : ¬ CompileShaped line) : compile line = .ok none := by
  unfold compile
  split
  · rfl
  next locator message divided =>
  have unknown : compileError? (trim message) = none := by
    rw [compileError?_eq_none_iff]
    intro error marked
    exact shapeless ⟨locator, message, error, divided, marked⟩
  dsimp only
  rw [unknown]

/-- A position that is not read is reported as such. -/
theorem fault_of_positionOrOne {value : Option Text} {e : LineError}
    (failed : positionOrOne value line = .error e) : ∃ text, e.fault = .invalidPosition text := by
  cases value with
  | none => cases failed
  | some value =>
    simp only [positionOrOne, position] at failed
    split at failed
    · cases failed
    · cases failed
      exact ⟨_, rfl⟩

/-- A line with the shape of a compile error is read as one, or refused for its
context or a position. -/
theorem compile_of_shaped (shaped : CompileShaped line) :
    (∃ r, compile line = .ok (some r) ∧ r.origin = .compiler) ∨
      ∃ e, compile line = .error e ∧
        ((∃ error, e.fault = .missingContext error) ∨ ∃ text, e.fault = .invalidPosition text) := by
  obtain ⟨locator, message, phrase, divided, marked⟩ := shaped
  have known : compileError? (trim message) ≠ none := fun unknown =>
    compileError?_eq_none_iff.mp unknown phrase marked
  obtain ⟨error, known⟩ := Option.ne_none_iff_exists'.mp known
  rw [compile_of_known divided known]
  -- The three steps of the reading fail in turn or go on to the next.
  cases quoted : compileContext error (trim message) line with
  | error e =>
    refine Or.inr ⟨e, rfl, Or.inl ⟨error, ?_⟩⟩
    rw [eq_of_compileContext_eq_error quoted]
  | ok context =>
    cases lineRead : positionOrOne (locatorFields (trim locator)).2.1 line with
    | error e => exact Or.inr ⟨e, rfl, Or.inr (fault_of_positionOrOne lineRead)⟩
    | ok lineNumber =>
      cases columnRead : positionOrOne (locatorFields (trim locator)).2.2 line with
      | error e => exact Or.inr ⟨e, rfl, Or.inr (fault_of_positionOrOne columnRead)⟩
      | ok column => exact Or.inl ⟨_, rfl, rfl⟩

theorem compile_eq_none_iff : compile line = .ok none ↔ ¬ CompileShaped line := by
  refine ⟨fun declined shaped => ?_, compile_of_not_shaped⟩
  rcases compile_of_shaped shaped with ⟨r, read, -⟩ | ⟨e, failed, -⟩
  · rw [read] at declined
    cases declined
  · rw [failed] at declined
    cases declined

/-- A line with the warning mark is read as a warning, or refused as one. -/
theorem internal_of_marked (marked : warningMark <:+: line) :
    (∃ r, internal line = .ok (some r) ∧ r.origin = .compilerWarning) ∨
      ∃ e, internal line = .error e ∧
        e.fault ∈ [.malformedWarning, .missingFile, .unknownStyle] := by
  have warning : isInternalWarning line = true := contains_iff.mpr marked
  unfold internal
  simp only [warning, Bool.not_true, Bool.false_eq_true, if_false]
  split
  · exact Or.inr ⟨_, rfl, by simp⟩
  next head message divided =>
  split
  · exact Or.inr ⟨_, rfl, by simp⟩
  next file named =>
  cases known : styleRule? (trim message) with
  | none =>
    have refused : styleRule (trim message) line = .error ⟨.unknownStyle, line⟩ := by
      rw [styleRule, known]
    rw [refused]
    exact Or.inr ⟨_, rfl, by simp⟩
  | some rule =>
    rw [styleRule_eq_ok_iff.mpr known]
    exact Or.inl ⟨_, rfl, rfl⟩

theorem internal_ne_none (marked : warningMark <:+: line) : internal line ≠ .ok none := by
  intro declined
  rcases internal_of_marked marked with ⟨r, read, -⟩ | ⟨e, refused, -⟩
  · rw [read] at declined
    cases declined
  · rw [refused] at declined
    cases declined

theorem internal_ne_compile (marked : warningMark <:+: line) (shaped : CompileShaped line) :
    internal line ≠ compile line := by
  intro same
  rcases internal_of_marked marked with ⟨r, warned, origin⟩ | ⟨e, refused, fault⟩ <;>
    rcases compile_of_shaped shaped with ⟨s, read, origin'⟩ | ⟨e', failed, fault'⟩
  · rw [warned, read] at same
    cases same
    rw [origin] at origin'
    cases origin'
  · rw [warned, failed] at same
    cases same
  · rw [refused, read] at same
    cases same
  · rw [refused, failed] at same
    cases same
    rcases fault' with ⟨error, fault'⟩ | ⟨text, fault'⟩ <;> simp [fault'] at fault

/-! ## The classification of warnings -/

/-- What the later shapes give is the outcome when the earlier ones decline. -/
theorem map_classify_of_internal (styled : style line = .ok none) (compiled : compile line = .ok none)
    (warned : internal line ≠ .ok none) : (classify line).map some = internal line := by
  rw [classify, styled]
  rw [show (Except.ok none : Reading) >>= _ = _ from rfl, compiled]
  rw [show (Except.ok none : Reading) >>= _ = _ from rfl]
  cases read : internal line with
  | error e => rfl
  | ok found =>
    cases found with
    | none => exact (warned read).elim
    | some r => rfl

theorem map_classify_of_compile (styled : style line = .ok none)
    (compiled : compile line ≠ .ok none) : (classify line).map some = compile line := by
  cases read : compile line with
  | error e => rw [classify_of_compile (.error e) styled read, Except.map]
  | ok found =>
    cases found with
    | none => exact (compiled read).elim
    | some r => rw [classify_of_compile (.ok r) styled read, Except.map]

/-- A line with the warning mark is classified as what `internal` makes of it
exactly when it has not the shape of a compile error; with that shape, it is
classified as what `compile` makes of it. -/
theorem classify_warning_iff (marked : warningMark <:+: line) :
    ((classify line).map some = internal line ↔ ¬ CompileShaped line) ∧
      (CompileShaped line → (classify line).map some = compile line) := by
  have styled := style_of_marked marked
  have taken (shaped : CompileShaped line) : (classify line).map some = compile line :=
    map_classify_of_compile styled fun declined => compile_eq_none_iff.mp declined shaped
  refine ⟨⟨fun same shaped => ?_, fun shapeless => ?_⟩, taken⟩
  · exact internal_ne_compile marked shaped (same.symm.trans (taken shaped))
  · exact map_classify_of_internal styled (compile_eq_none_iff.mpr shapeless)
      (internal_ne_none marked)

/-- The warning about a file that declares no syntax, up to its first period. -/
def syntaxWarning (file : Text) : Text :=
  printWarning " parser.cc:562" (" No syntax specified for the proto file: " ++ file ++ ".")

/-- The warning about `a.proto` is classified as a warning. -/
theorem classify_syntaxWarning :
    warningMark <:+: syntaxWarning "a.proto" ∧ ¬ CompileShaped (syntaxWarning "a.proto") ∧
      (classify (syntaxWarning "a.proto")).map some =
        .ok (some (.make (.style .syntaxUnspecified) .compilerWarning (syntaxWarning "a.proto")
          "a.proto" 1 1 none)) := by
  have marked : warningMark <:+: syntaxWarning "a.proto" := contains_iff.mp (by decide)
  have shapeless : ¬ CompileShaped (syntaxWarning "a.proto") := compile_eq_none_iff.mp (by rfl)
  refine ⟨marked, shapeless, ?_⟩
  rw [(classify_warning_iff marked).1.mpr shapeless]
  rfl

/-- The warning about `expected.proto` holds the phrase of a missing token, and is
refused because it quotes none. -/
theorem classify_syntaxWarning_expected :
    warningMark <:+: syntaxWarning "expected.proto" ∧
      internal (syntaxWarning "expected.proto") =
        .ok (some (.make (.style .syntaxUnspecified) .compilerWarning
          (syntaxWarning "expected.proto") "expected.proto" 1 1 none)) ∧
      classify (syntaxWarning "expected.proto") =
        .error ⟨.missingContext .unexpectedToken, syntaxWarning "expected.proto"⟩ :=
  ⟨contains_iff.mp (by decide), by rfl, by rfl⟩

end Line

end SchemaLint
