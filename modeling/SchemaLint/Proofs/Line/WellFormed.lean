import SchemaLint.Proofs.Line.Classify

/-!
# What every classification gives

Whatever a line holds, its classification is an error that names the line, or a record
of it. The first goes through each of the shapes: `Blames line x` says that an error of
`x` is about `line`, and holds of a sequence of steps when it holds of each
(`Blames.bind`). For the second, each origin has its own facts (`FromPlugin`,
`FromWarning`, `FromCompiler`), which the parts of the shape carry. The later stages
rest on them: the fingerprint on the file and the context, the issue on the positions.
-/

namespace SchemaLint.Line

open Text

/-! ## Errors -/

section

variable {line : Text} {α β : Type}

/-- An error of a step in reading a line is about that line. -/
def Blames (line : Text) (x : Except LineError α) : Prop := ∀ e, x = .error e → e.line = line

namespace Blames

theorem ok (a : α) : Blames line (.ok a) := nofun

theorem error (fault : LineFault) : Blames line (.error ⟨fault, line⟩ : Except LineError α) := by
  rintro _ ⟨⟩
  rfl

theorem bind {x : Except LineError α} {f : α → Except LineError β} (first : Blames line x)
    (each : ∀ a, Blames line (f a)) : Blames line (x >>= f) := by
  cases x with
  | error e =>
    rintro _ ⟨⟩
    exact first e rfl
  | ok a => exact each a

end Blames

theorem blames_styleRule (message : Text) : Blames line (styleRule message line) := by
  unfold styleRule
  split
  · exact .ok _
  · exact .error _

theorem blames_position (value : Text) : Blames line (position value line) := by
  unfold position
  split
  · exact .ok _
  · exact .error _

theorem blames_positionOrOne (value : Option Text) : Blames line (positionOrOne value line) := by
  cases value with
  | none => exact .ok 1
  | some value => exact blames_position value

theorem blames_compileContext (error : CompileError) (message : Text) :
    Blames line (compileContext error message line) := by
  cases error with
  | fileNotFound | missingFieldNumber | unexpectedEndOfInput => exact .ok none
  | importUnresolved | unexpectedToken | symbolNotDefined =>
    simp only [compileContext]
    split
    · exact .ok _
    · exact .error _

theorem blames_style (line : Text) : Blames line (style line) := by
  unfold style
  split
  · exact .ok none
  split
  · exact .ok none
  dsimp only
  split
  · exact .error _
  · exact .bind (blames_position _) fun _ => .bind (blames_position _) fun _ =>
      .bind (blames_styleRule _) fun _ => .ok _

theorem blames_compile (line : Text) : Blames line (compile line) := by
  unfold compile
  split
  · exact .ok none
  dsimp only
  split
  · exact .ok none
  · exact .bind (blames_compileContext _ _) fun _ => .bind (blames_positionOrOne _) fun _ =>
      .bind (blames_positionOrOne _) fun _ => .ok _

theorem blames_internal (line : Text) : Blames line (internal line) := by
  unfold internal
  split
  · exact .ok none
  split
  · exact .error _
  split
  · exact .error _
  · exact .bind (blames_styleRule _) fun _ => .ok _

/-- Whichever shape refuses a line, the error holds the line. -/
theorem blames_classify (line : Text) : Blames line (classify line) := by
  unfold classify
  refine .bind (blames_style line) fun styled => ?_
  cases styled with
  | some r => exact .ok r
  | none =>
    refine .bind (blames_compile line) fun compiled => ?_
    cases compiled with
    | some r => exact .ok r
    | none =>
      refine .bind (blames_internal line) fun warned => ?_
      cases warned with
      | some r => exact .ok r
      | none => exact .error _

end

/-! ## Records -/

/-- A record of a line of the lint plugin. -/
structure FromPlugin (r : Record) : Prop where
  kind : ∃ rule, r.kind = .style rule
  unmarked : ¬ warningMark <:+: r.raw
  file : PluginFile r.file
  context : ∀ c ∈ r.context, c ≠ [] ∧ Trimmed isQuote c

/-- A record of a warning of the compiler about its own input. -/
structure FromWarning (r : Record) : Prop where
  kind : ∃ rule, r.kind = .style rule
  marked : warningMark <:+: r.raw
  line : r.line = 1
  column : r.column = 1
  context : r.context = none
  fileChars : ∀ c ∈ r.file, isBlankChar c = false ∧ c ≠ ']'
  fileEnding : protoEnding <:+: r.file

/-- A record of an error of the compiler. -/
structure FromCompiler (r : Record) : Prop where
  kind : ∃ error, r.kind = .compile error
  fileNoColon : ':' ∉ r.file
  fileTrimmed : Trimmed isBlankChar r.file
  hasContext : r.context.isSome = true ↔
    r.kind ∈ [CompileError.importUnresolved, .symbolNotDefined, .unexpectedToken].map Kind.compile
  noQuote : ∀ c ∈ r.context, '"' ∉ c
  importEnding : r.kind = .compile .importUnresolved → ∀ c ∈ r.context, protoEnding <:+: c

variable {line : Text}

theorem StyleParts.fromPlugin (p : StyleParts line) : FromPlugin p.record where
  kind := ⟨p.rule, rfl⟩
  unmarked := p.noWarning
  file := p.pluginFile
  context c found := by
    have read : p.record.context = styleContext? p.remainder := rfl
    rw [read, styleContext?_eq, Option.mem_def] at found
    split at found
    · cases found
    · next some =>
      cases found
      exact ⟨some, trimmed_trimBy isQuote _⟩

/-- The file of a warning is a word of its message, without a period at the end. -/
theorem WarningParts.exists_word (p : WarningParts line) :
    ∃ word ∈ words (trim p.message), protoEnding <:+: word ∧ p.file = dropEnding ['.'] word := by
  obtain ⟨word, found, file⟩ := Option.map_eq_some_iff.mp p.named
  exact ⟨word, List.mem_of_find?_eq_some found,
    contains_iff.mp (List.find?_some found), file.symm⟩

theorem WarningParts.not_mem_message (p : WarningParts line) : ']' ∉ p.message := by
  intro held
  obtain ⟨a, b, split⟩ := List.append_of_mem held
  exact (halves?_eq_some_iff.mp p.divided).2 ⟨a, b, by simp [split]⟩

theorem WarningParts.fromWarning (p : WarningParts line) : FromWarning p.record where
  kind := ⟨p.rule, rfl⟩
  marked := p.isWarning
  line := rfl
  column := rfl
  context := rfl
  fileChars c held := by
    obtain ⟨word, present, -, file⟩ := p.exists_word
    have fileOf : p.record.file = dropEnding ['.'] word := file
    rw [fileOf] at held
    obtain ⟨inMessage, spoken⟩ := mem_of_mem_words present c ((dropEnding_isPrefix _ _).subset held)
    refine ⟨spoken, ?_⟩
    rintro rfl
    exact p.not_mem_message ((trimBy_isInfix _ _).subset inMessage)
  fileEnding := by
    obtain ⟨word, -, named, file⟩ := p.exists_word
    have fileOf : p.record.file = dropEnding ['.'] word := file
    rw [fileOf]
    exact infix_dropEnding (by decide) named

theorem CompileParts.fromCompiler (p : CompileParts line) : FromCompiler p.record where
  kind := ⟨p.error, rfl⟩
  fileNoColon := p.noColon
  fileTrimmed := trimmed_trimBy isBlankChar _
  hasContext := by
    have carries := p.carries
    show p.context.isSome = true ↔ Kind.compile p.error ∈ _
    cases context : p.context with
    | none =>
      simp only [context, CarriesContext, List.mem_cons, List.not_mem_nil, or_false] at carries
      rcases carries with error | error | error <;> simp [error]
    | some c =>
      simp only [context, CarriesContext, List.mem_cons, List.not_mem_nil, or_false] at carries
      rcases carries.2 with (error | error) | ⟨error, -⟩ <;> simp [error]
  noQuote c found := (p.context_isInfix found).2
  importEnding isImport c found := by
    have error : p.error = .importUnresolved := Kind.compile.inj isImport
    have context : p.context = some c := found
    have carries := p.carries
    rw [context, error] at carries
    rcases carries.2 with other | ⟨-, ending⟩
    · exact absurd other (by decide)
    · exact ending

/-- Every line is classified to an error that holds the line itself, or to a record of
the line, whose line and column are positions, and which has what the shape of its
origin gives. -/
theorem classify_wellFormed (line : Text) :
    (∀ e, classify line = .error e → e.line = line) ∧
      ∀ r, classify line = .ok r →
        r.raw = line ∧ IsPosition r.line ∧ IsPosition r.column ∧
          match r.origin with
          | .plugin => FromPlugin r
          | .compilerWarning => FromWarning r
          | .compiler => FromCompiler r := by
  refine ⟨blames_classify line, fun r read => ?_⟩
  obtain ⟨lineRange, columnRange⟩ := isPosition_of_classify read
  rcases parts_of_classify read with ⟨-, p, rfl⟩ | ⟨-, p, rfl⟩ | ⟨-, p, rfl⟩
  · exact ⟨rfl, lineRange, columnRange, p.fromPlugin⟩
  · exact ⟨rfl, lineRange, columnRange, p.fromCompiler⟩
  · exact ⟨rfl, lineRange, columnRange, p.fromWarning⟩

/-- A line that is refused for its column, and a line of each shape: a plugin's context
with quotes inside other quotes, an imported file, and a warning whose file ends in a
period of its own. -/
theorem classify_wellFormed_shapes :
    (∃ e, classify "x.proto:1:0: 'Foo' - message names" = .error e ∧
      e.line = "x.proto:1:0: 'Foo' - message names") ∧
    (∃ r, classify "x.proto:1:7: \"' Foo'\" - message names" = .ok r ∧ FromPlugin r) ∧
    (∃ r, classify "x.proto : \"a.proto\" was not found or had errors" = .ok r ∧
      FromCompiler r) ∧
    ∃ r, classify "[libprotobuf WARNING] No syntax specified x.proto.. here" = .ok r ∧
      FromWarning r := by
  have refused : classify "x.proto:1:0: 'Foo' - message names" =
      .error ⟨.invalidPosition ['0'], "x.proto:1:0: 'Foo' - message names"⟩ := by
    rfl
  have styled : classify "x.proto:1:7: \"' Foo'\" - message names" =
      .ok (.make (.style .messageCase) .plugin "x.proto:1:7: \"' Foo'\" - message names" "x.proto"
        1 7 (some " Foo")) := by
    rfl
  have compiled : classify "x.proto : \"a.proto\" was not found or had errors" =
      .ok (.make (.compile .importUnresolved) .compiler
        "x.proto : \"a.proto\" was not found or had errors" "x.proto" 1 1 (some "a.proto")) := by
    rfl
  have warned : classify "[libprotobuf WARNING] No syntax specified x.proto.. here" =
      .ok (.make (.style .syntaxUnspecified) .compilerWarning
        "[libprotobuf WARNING] No syntax specified x.proto.. here" "x.proto." 1 1 none) := by
    rfl
  obtain ⟨-, -, -, plugin⟩ := (classify_wellFormed _).2 _ styled
  obtain ⟨-, -, -, compiler⟩ := (classify_wellFormed _).2 _ compiled
  obtain ⟨-, -, -, warning⟩ := (classify_wellFormed _).2 _ warned
  exact ⟨⟨_, refused, (classify_wellFormed _).1 _ refused⟩, ⟨_, styled, plugin⟩,
    ⟨_, compiled, compiler⟩, _, warned, warning⟩

end SchemaLint.Line
