import SchemaLint.Line.Classify
import SchemaLint.Proofs.Line.Basic

/-!
# Compile errors: every locator and every kind

`CompileParts line` holds the parts that `compile` finds in a line, as
`StyleParts` does for style issues. The kind is the first whose phrase the
message holds (`FirstMarked`), and its context is what `CarriesContext` says: the
text between the first two double quotes for the errors that need one, which has
to name a schema file for an import.

`compile_printCompile` reads a printed error back for each of the three locators.
The style shape comes first in classification and has to decline; it does, since
a line without its delimiter has no halves.
-/

namespace SchemaLint.Line

open Text

/-! ## Kinds and contexts -/

/-- The first error, in the order of all errors, whose phrase occurs in the
message in lower case. -/
def FirstMarked (message : Text) (error : CompileError) : Prop :=
  error.marker <:+: lowerCase message ∧
    ∃ before after, CompileError.all = before ++ error :: after ∧
      ∀ e ∈ before, ¬ e.marker <:+: lowerCase message

/-- The text between the first two double quotes. -/
def FirstQuoted (message quoted : Text) : Prop :=
  ∃ a b, message = a ++ '"' :: (quoted ++ '"' :: b) ∧ '"' ∉ a ∧ '"' ∉ quoted

/-- The context that an error takes from its message. Three errors take none. Two
take the first quoted text, and an import does if that names a schema file. -/
def CarriesContext (error : CompileError) (message : Text) : Option Text → Prop
  | none => error ∈ [.fileNotFound, .missingFieldNumber, .unexpectedEndOfInput]
  | some quoted =>
    FirstQuoted message quoted ∧
      (error ∈ [.unexpectedToken, .symbolNotDefined] ∨
        error = .importUnresolved ∧ protoEnding <:+: quoted)

theorem compileError?_eq_some_iff {message : Text} {error : CompileError} :
    compileError? message = some error ↔ FirstMarked message error := by
  simp only [compileError?, FirstMarked, List.find?_eq_some_iff_append, contains_iff,
    Bool.not_eq_true', contains_eq_false_iff]

theorem firstQuoted?_eq_some_iff {message quoted : Text} :
    firstQuoted? message = some quoted ↔ FirstQuoted message quoted := by
  constructor
  · intro h
    obtain ⟨rest, opened, h⟩ := Option.bind_eq_some_iff.mp h
    obtain ⟨b, closed, rfl⟩ := Option.map_eq_some_iff.mp h
    refine ⟨before '"' message, b, ?_, not_mem_before _ _, not_mem_before _ _⟩
    rw [← append_of_after?_eq_some closed]
    exact append_of_after?_eq_some opened
  · rintro ⟨a, b, rfl, noQuote, inner⟩
    rw [firstQuoted?, after?_append_cons noQuote, Option.bind_some, after?_append_cons inner,
      before_append_cons inner]
    rfl

/-- The contexts that an error takes are those that are found for it. -/
theorem compileContext_eq_ok_iff {error : CompileError} {message line : Text}
    {context : Option Text} :
    compileContext error message line = .ok context ↔ CarriesContext error message context := by
  cases error with
  | fileNotFound | missingFieldNumber | unexpectedEndOfInput =>
    cases context <;> simp [compileContext, CarriesContext]
  | importUnresolved =>
    have taken (quoted : Text) :
        (firstQuoted? message).filter (contains protoEnding) = some quoted ↔
          FirstQuoted message quoted ∧ protoEnding <:+: quoted := by
      rw [Option.filter_eq_some_iff, contains_iff, firstQuoted?_eq_some_iff]
    simp only [compileContext]
    cases context with
    | none => split <;> simp [CarriesContext]
    | some quoted =>
      simp only [CarriesContext, true_and, List.mem_cons, reduceCtorEq, List.not_mem_nil, or_self,
        false_or, ← taken]
      split
      · next found => simp [found]
      · next absent => simp [absent]
  | unexpectedToken | symbolNotDefined =>
    simp only [compileContext]
    cases context with
    | none => split <;> simp [CarriesContext]
    | some quoted =>
      simp only [CarriesContext, ← firstQuoted?_eq_some_iff]
      split
      · next found => simp [found]
      · next absent => simp [absent]

/-- Where no context can be taken, the error names the kind and the line. -/
theorem compileContext_eq_error {error : CompileError} {message line : Text}
    (none : ∀ context, ¬ CarriesContext error message context) :
    compileContext error message line = .error ⟨.missingContext error, line⟩ := by
  cases result : compileContext error message line with
  | ok context => exact (none context (compileContext_eq_ok_iff.mp result)).elim
  | error e =>
    cases error with
    | fileNotFound | missingFieldNumber | unexpectedEndOfInput => cases result
    | importUnresolved | unexpectedToken | symbolNotDefined =>
      simp only [compileContext] at result
      split at result
      · cases result
      · exact result.symm

/-- No other error comes from taking a context. -/
theorem eq_of_compileContext_eq_error {error : CompileError} {message line : Text} {e : LineError}
    (failed : compileContext error message line = .error e) :
    e = ⟨.missingContext error, line⟩ := by
  have absent (context : Option Text) : ¬ CarriesContext error message context := by
    intro carries
    rw [compileContext_eq_ok_iff.mpr carries] at failed
    cases failed
  rw [compileContext_eq_error absent] at failed
  cases failed
  rfl

/-! ## The parts of a compile error -/

/-- The parts of a line that reads as a compile error. -/
structure CompileParts (line : Text) where
  locator : Text
  message : Text
  error : CompileError
  context : Option Text
  lineNumber : Nat
  column : Nat
  divided : halves? compileDelimiter line = some (locator, message)
  known : compileError? (trim message) = some error
  quoted : compileContext error (trim message) line = .ok context
  lineRead : positionOrOne (locatorFields (trim locator)).2.1 line = .ok lineNumber
  columnRead : positionOrOne (locatorFields (trim locator)).2.2 line = .ok column

namespace CompileParts

variable {line : Text}

/-- The file that the parts name. -/
def file (p : CompileParts line) : Text := trim (before ':' (trim p.locator))

/-- The record that the parts make. -/
def record (p : CompileParts line) : Record :=
  .make (.compile p.error) .compiler line p.file p.lineNumber p.column p.context

end CompileParts

/-- A line with a known error is read by its context and then its numbers. -/
theorem compile_of_known {line locator message : Text} {error : CompileError}
    (divided : halves? compileDelimiter line = some (locator, message))
    (known : compileError? (trim message) = some error) :
    compile line = (do
      let context ← compileContext error (trim message) line
      let lineNumber ← positionOrOne (locatorFields (trim locator)).2.1 line
      let column ← positionOrOne (locatorFields (trim locator)).2.2 line
      return some (.make (.compile error) .compiler line (trim (before ':' (trim locator)))
        lineNumber column context)) := by
  unfold compile
  rw [divided]
  simp only [known]
  rfl

/-- A line reads as a compile error exactly by its parts. -/
theorem compile_eq_some_iff {line : Text} {r : Record} :
    compile line = .ok (some r) ↔ ∃ p : CompileParts line, p.record = r := by
  constructor
  · intro h
    unfold compile at h
    split at h
    · cases h
    next locator message divided =>
    dsimp only at h
    split at h
    · cases h
    next error known =>
    obtain ⟨context, quoted, h⟩ := bind_eq_ok_iff.mp h
    obtain ⟨lineNumber, lineRead, h⟩ := bind_eq_ok_iff.mp h
    obtain ⟨column, columnRead, h⟩ := bind_eq_ok_iff.mp h
    cases h
    exact ⟨⟨locator, message, error, context, lineNumber, column, divided, known, quoted, lineRead,
      columnRead⟩, rfl⟩
  · rintro ⟨p, rfl⟩
    rw [compile_of_known p.divided p.known, p.quoted, p.lineRead, p.columnRead]
    rfl

namespace CompileParts

variable {line : Text} (p : CompileParts line)

theorem line_eq : line = p.locator ++ compileDelimiter ++ p.message :=
  cut?_eq_some (halves?_eq_some_iff.mp p.divided).1

/-- The file has no colon, since the first colon of the locator ends it. -/
theorem noColon : ':' ∉ p.file := fun held =>
  not_mem_before ':' _ ((trimBy_isInfix _ _).subset held)

theorem file_isInfix : p.file <:+: line := by
  have locator : p.locator <:+: line :=
    ⟨[], compileDelimiter ++ p.message, by simpa using p.line_eq.symm⟩
  have before := (before_isPrefix ':' (trim p.locator)).isInfix.trans (trimBy_isInfix _ _)
  exact (trimBy_isInfix _ _).trans (before.trans locator)

theorem carries : CarriesContext p.error (trim p.message) p.context :=
  compileContext_eq_ok_iff.mp p.quoted

/-- A context comes from the line and holds no double quote. -/
theorem context_isInfix {context : Text} (some : p.context = some context) :
    context <:+: line ∧ '"' ∉ context := by
  have carries := p.carries
  rw [some] at carries
  obtain ⟨⟨a, b, whole, -, noQuote⟩, -⟩ := carries
  have message : p.message <:+: line :=
    ⟨p.locator ++ compileDelimiter, [], by simpa using p.line_eq.symm⟩
  have quoted : context <:+: trim p.message := ⟨a ++ ['"'], '"' :: b, by simp [whole]⟩
  exact ⟨quoted.trans ((trimBy_isInfix _ _).trans message), noQuote⟩

end CompileParts

/-! ## Locators -/

namespace Locator

/-- The file of a locator. -/
def file : Locator → Text
  | bare file => file
  | withLine file _ => file
  | withColumn file _ _ => file

/-- The line of a locator, 1 when it has none. -/
def line : Locator → Nat
  | bare _ => 1
  | withLine _ line => line
  | withColumn _ line _ => line

/-- The column of a locator, 1 when it has none. -/
def column : Locator → Nat
  | bare _ => 1
  | withLine _ _ => 1
  | withColumn _ _ column => column

/-- The numbers of a locator as it prints them. -/
def place : Locator → Text
  | bare _ => []
  | withLine _ line => ':' :: numeral line
  | withColumn _ line column => ':' :: (numeral line ++ ':' :: numeral column)

variable (l : Locator)

theorem print_eq : l.print = l.file ++ l.place := by
  cases l <;> simp [print, file, place]

theorem not_mem_place {c : Char} (noDigit : c.isDigit = false) (noColon : c ≠ ':') :
    c ∉ l.place := by
  have noNumeral (n : Nat) : c ∉ numeral n := not_mem_numeral n noDigit
  cases l <;> simp [place, noColon, noNumeral]

theorem trimmed_print (trimmed : Trimmed isBlankChar l.file) : Trimmed isBlankChar l.print := by
  have colon : Trimmed isBlankChar [':'] := by decide
  rw [print_eq]
  refine trimmed.append ?_
  cases l with
  | bare file => exact .of_all (by simp [place])
  | withLine file line => exact colon.append (trimmed_numeral line)
  | withColumn file line column =>
    exact colon.append ((trimmed_numeral line).append (colon.append (trimmed_numeral column)))

/-- The fields of a locator are its numbers, as far as it has them. -/
theorem positions_print (raw : Text) (noColon : ':' ∉ l.file) (lineRange : IsPosition l.line)
    (columnRange : IsPosition l.column) :
    (locatorFields l.print).1 = l.file ∧
      positionOrOne (locatorFields l.print).2.1 raw = .ok l.line ∧
      positionOrOne (locatorFields l.print).2.2 raw = .ok l.column := by
  have noNumeral (n : Nat) : ':' ∉ numeral n := not_mem_numeral n (by decide)
  rw [print_eq]
  cases l with
  | bare file =>
    simp only [Locator.file] at noColon
    simp only [locatorFields, Locator.file, place, List.append_nil, before_of_not_mem noColon,
      after?_of_not_mem noColon]
    exact ⟨trivial, rfl, rfl⟩
  | withLine file line =>
    simp only [Locator.file] at noColon
    simp only [locatorFields, Locator.file, place, before_append_cons noColon,
      after?_append_cons noColon, Option.map_some, Option.bind_some,
      before_of_not_mem (noNumeral line), after?_of_not_mem (noNumeral line)]
    exact ⟨trivial, position_numeral lineRange _, rfl⟩
  | withColumn file line column =>
    simp only [Locator.file] at noColon
    simp only [locatorFields, Locator.file, place, before_append_cons noColon,
      after?_append_cons noColon, Option.map_some, Option.bind_some,
      before_append_cons (noNumeral line), after?_append_cons (noNumeral line)]
    exact ⟨trivial, position_numeral lineRange _, position_numeral columnRange _⟩

end Locator

/-! ## Reading what was printed -/

section

variable {locator : Locator} {message : Text}

/-- The delimiter of a printed error is the one after the locator. -/
theorem halves?_printCompile (noColon : ':' ∉ locator.file)
    (after : ¬ compileDelimiter <:+: message) :
    halves? compileDelimiter (printCompile locator message) = some (locator.print, message) := by
  refine halves?_eq_some_iff.mpr ⟨cut?_append (by decide) ?_, after⟩
  have noSpace : ' ' ∉ locator.place ++ compileDelimiter.dropLast := by
    rw [List.mem_append, not_or]
    exact ⟨locator.not_mem_place (by decide) (by decide), by decide⟩
  rw [locator.print_eq, List.append_assoc]
  intro occurs
  -- The file lacks the colon, and what follows it lacks the space.
  exact not_infix_of_not_mem (by decide) noSpace ((cons_infix_append_iff noColon).mp occurs)

/-- A line without the delimiter of style issues is left to the other shapes. -/
theorem style_eq_none {line : Text} (absent : ¬ styleDelimiter <:+: line) :
    style line = .ok none := by
  rw [style, halves?_eq_none absent]
  split <;> rfl

/-- A printed error reads as its context does. -/
theorem compile_printCompile {error : CompileError} (noColon : ':' ∉ locator.file)
    (fileTrimmed : Trimmed isBlankChar locator.file) (lineRange : IsPosition locator.line)
    (columnRange : IsPosition locator.column) (messageTrimmed : Trimmed isBlankChar message)
    (after : ¬ compileDelimiter <:+: message) (marked : FirstMarked message error) :
    compile (printCompile locator message) =
      (compileContext error message (printCompile locator message)).map fun context =>
        some (.make (.compile error) .compiler (printCompile locator message) locator.file
          locator.line locator.column context) := by
  obtain ⟨file, line, column⟩ := locator.positions_print (printCompile locator message)
    noColon lineRange columnRange
  have locatorTrim : trim locator.print = locator.print :=
    trimBy_eq_self (locator.trimmed_print fileTrimmed)
  have fileTrim : trim locator.file = locator.file := trimBy_eq_self fileTrimmed
  have messageTrim : trim message = message := trimBy_eq_self messageTrimmed
  rw [compile, halves?_printCompile noColon after]
  simp only [messageTrim, compileError?_eq_some_iff.mpr marked, locatorTrim, file, line, column,
    fileTrim]
  cases compileContext error message (printCompile locator message) <;> rfl

theorem classify_of_compile {line : Text} (result : Except LineError Record)
    (declined : style line = .ok none) (read : compile line = result.map some) :
    classify line = result := by
  rw [classify, declined]
  cases result <;> rw [show (Except.ok none : Reading) >>= _ = _ from rfl, read] <;> rfl

end

/-- Every printed compile error is classified. The kind is the first whose phrase
the message holds; the file, line and column are the locator's, 1 where it has
none; and where the kind needs a quoted text that the message does not have,
there is an error that names the kind, and no record. -/
theorem classify_printCompile (locator : Locator) (message : Text) (error : CompileError)
    (noColon : ':' ∉ locator.file) (fileTrimmed : Trimmed isBlankChar locator.file)
    (lineRange : IsPosition locator.line) (columnRange : IsPosition locator.column)
    (messageTrimmed : Trimmed isBlankChar message) (after : ¬ compileDelimiter <:+: message)
    (noStyle : ¬ styleDelimiter <:+: printCompile locator message)
    (marked : FirstMarked message error) :
    (∀ context, CarriesContext error message context →
      ∃ r, classify (printCompile locator message) = .ok r ∧ r.kind = .compile error ∧
        r.origin = .compiler ∧ r.file = locator.file ∧ r.line = locator.line ∧
        r.column = locator.column ∧ r.context = context) ∧
    ((∀ context, ¬ CarriesContext error message context) →
      classify (printCompile locator message) =
        .error ⟨.missingContext error, printCompile locator message⟩) := by
  have read := compile_printCompile noColon fileTrimmed lineRange columnRange messageTrimmed after
    marked
  have declined := style_eq_none noStyle
  constructor
  · intro context carries
    rw [compileContext_eq_ok_iff.mpr carries] at read
    exact ⟨_, classify_of_compile (.ok _) declined read, rfl, rfl, rfl, rfl, rfl, rfl⟩
  · intro none
    rw [compileContext_eq_error none] at read
    exact classify_of_compile (.error _) declined read

/-- A message with the phrases of two kinds, the earlier of which counts, and an
imported file that is not a schema file. -/
theorem classify_printCompile_overlapping :
    (∃ r, classify (printCompile (.withColumn "my dir/x.proto" 3 4294967295)
        "\"Foo.Bar\" IS not defined, expected \"Baz\".") = .ok r ∧
      r.kind = .compile .symbolNotDefined ∧ r.origin = .compiler ∧ r.file = "my dir/x.proto" ∧
      r.line = 3 ∧ r.column = 4294967295 ∧ r.context = some "Foo.Bar") ∧
    classify (printCompile (.bare "x.proto") "Import \"any\" was not found or had errors.") =
      .error ⟨.missingContext .importUnresolved,
        printCompile (.bare "x.proto") "Import \"any\" was not found or had errors."⟩ := by
  constructor
  · refine (classify_printCompile (.withColumn "my dir/x.proto" 3 4294967295)
      "\"Foo.Bar\" IS not defined, expected \"Baz\"." .symbolNotDefined (by decide) (by decide)
      (by decide) (by decide) (by decide) (contains_eq_false_iff.mp (by decide))
      (contains_eq_false_iff.mp (by decide)) (compileError?_eq_some_iff.mp (by decide))).1 _ ?_
    exact ⟨firstQuoted?_eq_some_iff.mp (by decide), Or.inl (by decide)⟩
  · refine (classify_printCompile (.bare "x.proto")
      "Import \"any\" was not found or had errors." .importUnresolved (by decide) (by decide)
      (by decide) (by decide) (by decide) (contains_eq_false_iff.mp (by decide))
      (contains_eq_false_iff.mp (by decide)) (compileError?_eq_some_iff.mp (by decide))).2 ?_
    intro context carries
    have refused :
        compileContext .importUnresolved "Import \"any\" was not found or had errors." [] =
          .error ⟨.missingContext .importUnresolved, []⟩ := rfl
    rw [compileContext_eq_ok_iff.mpr carries] at refused
    cases refused

end SchemaLint.Line
