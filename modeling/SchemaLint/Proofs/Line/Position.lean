import SchemaLint.Proofs.Line.Warning
import SchemaLint.Proofs.Text.Spelling
import SchemaLint.Proofs.Text.Words

/-!
# Positions are exact

A text is read as a position exactly if it spells one between blanks
(`position_eq_ok_iff`); any other text is refused with itself and the line, whether it
spells no number or one out of range. `Fields` names the two texts of a line that stand
for its line and its column. What the record of such a line has there is what these texts
give (`gives_of_classify`), and a line is never refused for a text that gives a position
(`fault_of_gives`).
-/

namespace SchemaLint.Line

open Text

variable {line value : Text} {n : Nat} {r : Record} {e : LineError}

/-! ## One number -/

/-- The text spells the position, with nothing but blanks around it. -/
def GivesPosition (value : Text) (n : Nat) : Prop :=
  IsPosition n ∧ ∃ before plus zeros after, isBlank before = true ∧ isBlank after = true ∧
    value = before ++ spelling plus zeros n ++ after

/-- A text that reads as a number is a position if its number is one. -/
theorem position_of_number (read : number? (trim value) = some n) (line : Text) :
    position value line =
      if IsPosition n then .ok n else .error ⟨.invalidPosition (trim value), line⟩ := by
  have range : IsPosition n ↔ 1 ≤ n ∧ n ≤ maxWord32 := Iff.rfl
  unfold position numberUpTo?
  rw [read, Option.filter_some]
  by_cases fits : n ≤ maxWord32
  · rw [if_pos (decide_eq_true fits)]
    cases n with
    | zero => rw [if_neg (by simp [range])]
    | succ n => rw [if_pos (range.mpr ⟨Nat.succ_pos n, fits⟩)]
  · rw [if_neg (by simp [fits]), if_neg (by simp [range, fits])]

theorem position_of_no_number (read : number? (trim value) = none) (line : Text) :
    position value line = .error ⟨.invalidPosition (trim value), line⟩ := by
  unfold position numberUpTo?
  rw [read]
  rfl

/-- Blanks around a spelling come off. -/
theorem trim_spelling {before after : Text} (blankBefore : isBlank before = true)
    (blankAfter : isBlank after = true) (plus : Bool) (zeros n : Nat) :
    trim (before ++ spelling plus zeros n ++ after) = spelling plus zeros n :=
  trimBy_append (trimmed_spelling plus zeros n) (List.all_eq_true.mp blankBefore)
    (List.all_eq_true.mp blankAfter)

/-- A spelling reads as its number if that is a position, and is refused otherwise. -/
theorem position_spelling {before after : Text} (blankBefore : isBlank before = true)
    (blankAfter : isBlank after = true) (plus : Bool) (zeros n : Nat) (line : Text) :
    position (before ++ spelling plus zeros n ++ after) line =
      if IsPosition n then .ok n
      else .error ⟨.invalidPosition (spelling plus zeros n), line⟩ := by
  have trimmed := trim_spelling blankBefore blankAfter plus zeros n
  have read : number? (trim (before ++ spelling plus zeros n ++ after)) = some n := by
    rw [trimmed, number?_spelling]
  rw [position_of_number read, trimmed]

/-- What is not a sign and digits is refused. -/
theorem position_of_not_spelling (shapeless : ¬ IsSpelling (trim value)) (line : Text) :
    position value line = .error ⟨.invalidPosition (trim value), line⟩ :=
  position_of_no_number (number?_eq_none_iff.mpr shapeless) line

theorem position_eq_ok_iff_number :
    position value line = .ok n ↔ number? (trim value) = some n ∧ IsPosition n := by
  cases number : number? (trim value) with
  | none =>
    rw [position_of_no_number number]
    simp
  | some m =>
    rw [position_of_number number, Option.some.injEq]
    split
    · next range =>
      rw [Except.ok.injEq]
      exact ⟨fun same => ⟨same, same ▸ range⟩, fun read => read.1⟩
    · next outside =>
      constructor
      · intro read
        cases read
      · intro read
        exact absurd (read.1 ▸ read.2) outside

/-- What a text gives is what it reads as between its blanks. -/
theorem givesPosition_iff_number :
    GivesPosition value n ↔ number? (trim value) = some n ∧ IsPosition n := by
  constructor
  · intro gives
    obtain ⟨range, before, plus, zeros, after, blankBefore, blankAfter, rfl⟩ := gives
    rw [trim_spelling blankBefore blankAfter, number?_spelling]
    exact ⟨rfl, range⟩
  · intro read
    obtain ⟨plus, zeros, spelled⟩ := number?_eq_some_iff.mp read.1
    obtain ⟨before, after, whole, blankBefore, blankAfter⟩ := exists_trimBy isBlankChar value
    refine ⟨read.2, before, plus, zeros, after, List.all_eq_true.mpr blankBefore,
      List.all_eq_true.mpr blankAfter, ?_⟩
    rw [← spelled, trim, ← whole]

/-- The texts that are read as a position are those that give it. -/
theorem position_eq_ok_iff : position value line = .ok n ↔ GivesPosition value n :=
  position_eq_ok_iff_number.trans givesPosition_iff_number.symm

/-- Reading in words of 32 bits gives the same positions. -/
theorem position_eq_ok_iff_word :
    position value line = .ok n ↔ ∃ w, wordNumber? (trim value) = some w ∧ 0 < w ∧ w.toNat = n := by
  simp only [position_eq_ok_iff_number, wordNumber?_eq_some_iff, numberUpTo?,
    Option.filter_eq_some_iff, decide_eq_true_eq]
  constructor
  · intro read
    obtain ⟨number, positive, fits⟩ := read
    have same : (UInt32.ofNat n).toNat = n := UInt32.toNat_ofNat_of_lt' (Nat.lt_succ_of_le fits)
    refine ⟨UInt32.ofNat n, ⟨by rw [same, number], by rw [same]; exact fits⟩, ?_, same⟩
    rw [UInt32.lt_iff_toNat_lt, same]
    exact positive
  · intro read
    obtain ⟨w, ⟨number, fits⟩, positive, rfl⟩ := read
    exact ⟨number, UInt32.lt_iff_toNat_lt.mp positive, fits⟩

/-! ## The numbers of a line -/

/-- The texts of a line that stand for its line and its column, by the shape that the
line has. For a style issue they are the second and third of the fields between colons
after the file; for a compile error they follow the first two colons of the locator. -/
inductive Fields (line : Text) : Origin → Option Text → Option Text → Prop
  | style {head message stem place} :
      ¬ warningMark <:+: line →
      halves? styleDelimiter line = some (head, message) →
      cut? protoEnding (before ' ' head) = some (stem, place) →
      Fields line .plugin (place.splitOnP (· == ':'))[1]? (place.splitOnP (· == ':'))[2]?
  | compile {locator message} {error : CompileError} :
      warningMark <:+: line ∨ halves? styleDelimiter line = none →
      halves? compileDelimiter line = some (locator, message) →
      error.marker <:+: lowerCase (trim message) →
      Fields line .compiler (locatorFields (trim locator)).2.1 (locatorFields (trim locator)).2.2

/-- What a field gives. The compiler may leave a number out, which is 1 then; the plugin
may not. -/
def FieldGives : Origin → Option Text → Nat → Prop
  | _, some value, n => GivesPosition value n
  | .compiler, none, n => n = 1
  | _, none, _ => False

theorem position_getD_eq_ok_iff {field : Option Text} :
    position (field.getD []) line = .ok n ↔ FieldGives .plugin field n := by
  cases field with
  | some value => exact position_eq_ok_iff
  | none =>
    have refused : position [] line = .error ⟨.invalidPosition [], line⟩ := rfl
    rw [Option.getD_none, refused]
    exact ⟨nofun, False.elim⟩

theorem positionOrOne_eq_ok_iff {field : Option Text} :
    positionOrOne field line = .ok n ↔ FieldGives .compiler field n := by
  cases field with
  | some value => exact position_eq_ok_iff
  | none =>
    rw [positionOrOne, Except.ok.injEq]
    exact eq_comm

/-! ## Lines with the shape of a style issue -/

section

variable {head message stem place : Text}

/-- The style shape declines warnings and lines that its delimiter does not divide once. -/
theorem style_eq_none_iff :
    style line = .ok none ↔ warningMark <:+: line ∨ halves? styleDelimiter line = none := by
  constructor
  · intro declined
    by_cases marked : warningMark <:+: line
    · exact Or.inl marked
    cases divided : halves? styleDelimiter line with
    | none => exact Or.inr rfl
    | some halves =>
      obtain ⟨head, message⟩ := halves
      cases named : cut? protoEnding (before ' ' head) with
      | none =>
        unfold style at declined
        rw [isInternalWarning_eq_false_iff.mpr marked, divided] at declined
        simp only [Bool.false_eq_true, if_false, named] at declined
        cases declined
      | some parts =>
        rw [style_of_fields marked divided named] at declined
        obtain ⟨lineNumber, -, declined⟩ := bind_eq_ok_iff.mp declined
        obtain ⟨column, -, declined⟩ := bind_eq_ok_iff.mp declined
        obtain ⟨rule, -, declined⟩ := bind_eq_ok_iff.mp declined
        cases declined
  · intro other
    rcases other with marked | undivided
    · exact style_of_marked marked
    · unfold style
      rw [undivided]
      split <;> rfl

/-- A line that the style shape does not decline is classified by it. -/
theorem map_classify_of_divided (noWarning : ¬ warningMark <:+: line)
    (divided : halves? styleDelimiter line = some (head, message)) :
    (classify line).map some = style line := by
  have taken : style line ≠ .ok none := by
    intro declined
    rcases style_eq_none_iff.mp declined with marked | undivided
    · exact noWarning marked
    · rw [divided] at undivided
      cases undivided
  cases read : style line with
  | error e =>
    rw [classify, read]
    rfl
  | ok found =>
    cases found with
    | none => exact (taken read).elim
    | some r =>
      rw [classify_of_style read]
      rfl

end

/-! ## What the numbers of a line are -/

/-- A record holds what the fields of its line give. -/
theorem gives_of_classify {origin : Origin} {first second : Option Text}
    (fields : Fields line origin first second) (read : classify line = .ok r) :
    r.origin = origin ∧ FieldGives origin first r.line ∧ FieldGives origin second r.column := by
  cases fields with
  | style noWarning divided named =>
    have styled := map_classify_of_divided noWarning divided
    rw [read] at styled
    obtain ⟨p, rfl⟩ := style_eq_some_iff.mp styled.symm
    cases p.divided.symm.trans divided
    cases p.named.symm.trans named
    exact ⟨rfl, position_getD_eq_ok_iff.mp p.lineRead, position_getD_eq_ok_iff.mp p.columnRead⟩
  | compile declined divided marked =>
    have compiled := map_classify_of_compile (style_eq_none_iff.mpr declined)
      fun other => compile_eq_none_iff.mp other ⟨_, _, _, divided, marked⟩
    rw [read] at compiled
    obtain ⟨p, rfl⟩ := compile_eq_some_iff.mp compiled.symm
    cases p.divided.symm.trans divided
    exact ⟨rfl, positionOrOne_eq_ok_iff.mp p.lineRead, positionOrOne_eq_ok_iff.mp p.columnRead⟩

/-- A line whose fields give its numbers is not refused for a number. -/
theorem fault_of_gives {origin : Origin} {first second : Option Text} {m n : Nat}
    (fields : Fields line origin first second) (lineGiven : FieldGives origin first m)
    (columnGiven : FieldGives origin second n) (refused : classify line = .error e) (text : Text) :
    e.fault ≠ .invalidPosition text := by
  cases fields with
  | @style head message stem place noWarning divided named =>
    have styled := map_classify_of_divided noWarning divided
    rw [refused, style_of_fields noWarning divided named, position_getD_eq_ok_iff.mpr lineGiven,
      position_getD_eq_ok_iff.mpr columnGiven] at styled
    cases known : styleRule? message with
    | none =>
      have unknown : styleRule message line = .error ⟨.unknownStyle, line⟩ := by
        rw [styleRule, known]
      rw [unknown] at styled
      cases styled
      intro same
      cases same
    | some rule =>
      rw [styleRule_eq_ok_iff.mpr known] at styled
      cases styled
  | @compile locator message phrase declined divided marked =>
    have compiled := map_classify_of_compile (style_eq_none_iff.mpr declined)
      fun other => compile_eq_none_iff.mp other ⟨_, _, _, divided, marked⟩
    have unknown : compileError? (trim message) ≠ none := fun absent =>
      compileError?_eq_none_iff.mp absent phrase marked
    obtain ⟨error, known⟩ := Option.ne_none_iff_exists'.mp unknown
    rw [refused, compile_of_known divided known] at compiled
    cases quoted : compileContext error (trim message) line with
    | error other =>
      rw [quoted] at compiled
      cases compiled
      rw [eq_of_compileContext_eq_error quoted]
      intro same
      cases same
    | ok context =>
      rw [quoted, positionOrOne_eq_ok_iff.mpr lineGiven, positionOrOne_eq_ok_iff.mpr columnGiven]
        at compiled
      cases compiled

/-- Every record of a style issue or of a compile error has a line with such fields. -/
theorem exists_fields_of_classify (read : classify line = .ok r)
    (place : r.origin ≠ .compilerWarning) :
    ∃ first second, Fields line r.origin first second := by
  rcases parts_of_classify read with ⟨-, p, rfl⟩ | ⟨-, p, rfl⟩ | ⟨origin, -⟩
  · exact ⟨_, _, .style p.noWarning p.divided p.named⟩
  · have declined : style line = .ok none := by
      cases styled : style line with
      | error e =>
        rw [classify, styled] at read
        cases read
      | ok found =>
        cases found with
        | none => rfl
        | some other =>
          rw [classify_of_style styled] at read
          obtain ⟨q, rfl⟩ := style_eq_some_iff.mp styled
          cases read
    exact ⟨_, _, .compile (style_eq_none_iff.mp declined) p.divided
      (compileError?_eq_some_iff.mp p.known).1⟩
  · exact (place origin).elim

/-- Positions are read exactly. A numeral with any number of zeros in front, a plus sign or
none and blanks around it gives its number, or is refused with the text between the blanks
when the number is out of range; so is any text that is not a sign and digits, and reading
in words of 32 bits would give the same. Hence the line and the column of a record are what
the fields of its line give, a field that gives none makes classification fail, and fields
that give both never do. -/
theorem positions_exact :
    (∀ before after plus zeros n line, isBlank before = true → isBlank after = true →
      position (before ++ spelling plus zeros n ++ after) line =
        if IsPosition n then .ok n
        else .error ⟨.invalidPosition (spelling plus zeros n), line⟩) ∧
    (∀ value line, ¬ IsSpelling (trim value) →
      position value line = .error ⟨.invalidPosition (trim value), line⟩) ∧
    (∀ value line n, position value line = .ok n ↔
      ∃ w, wordNumber? (trim value) = some w ∧ 0 < w ∧ w.toNat = n) ∧
    (∀ line r, classify line = .ok r → r.origin ≠ .compilerWarning →
      ∃ first second, Fields line r.origin first second) ∧
    ∀ line origin first second, Fields line origin first second →
      (∀ r, classify line = .ok r →
        r.origin = origin ∧ FieldGives origin first r.line ∧ FieldGives origin second r.column) ∧
      ((∀ n, ¬ FieldGives origin first n) ∨ (∀ n, ¬ FieldGives origin second n) →
        ∃ e, classify line = .error e) ∧
      ∀ m n, FieldGives origin first m → FieldGives origin second n →
        ∀ e text, classify line = .error e → e.fault ≠ .invalidPosition text := by
  refine ⟨?_, fun value line shapeless => position_of_not_spelling shapeless line, ?_, ?_, ?_⟩
  · intro before after plus zeros n line blankBefore blankAfter
    exact position_spelling blankBefore blankAfter plus zeros n line
  · exact fun value line n => position_eq_ok_iff_word
  · exact fun line r => exists_fields_of_classify
  · intro line origin first second fields
    refine ⟨fun r => gives_of_classify fields, ?_, ?_⟩
    · intro none
      cases read : classify line with
      | error e => exact ⟨e, rfl⟩
      | ok r =>
        obtain ⟨-, lineGiven, columnGiven⟩ := gives_of_classify fields read
        rcases none with noLine | noColumn
        · exact (noLine _ lineGiven).elim
        · exact (noColumn _ columnGiven).elim
    · intro m n lineGiven columnGiven e text refused
      exact fault_of_gives fields lineGiven columnGiven refused text

/-- The greatest number of 32 bits with a sign, zeros and blanks, the number that would wrap
around to 1, an empty text and digits of another script; a style issue with a signed number,
and a compile error whose line is one too great. -/
theorem positions_exact_bounds :
    position "\t +0004294967295\u00a0" [] = .ok 4294967295 ∧
    position "4294967297" [] = .error ⟨.invalidPosition "4294967297", []⟩ ∧
    position [] [] = .error ⟨.invalidPosition [], []⟩ ∧
    position " ٣" [] = .error ⟨.invalidPosition "٣", []⟩ ∧
    (∃ r, classify "x.proto:+007:12: 'Foo' - message names" = .ok r ∧
      FieldGives .plugin (some "+007") r.line ∧ FieldGives .plugin (some "12") r.column) ∧
    ∃ e, classify "x.proto:4294967296: Missing field number." = .error e := by
  obtain ⟨spelled, shapeless, -, -, lines⟩ := positions_exact
  refine ⟨?_, ?_, ?_, ?_, ?_, ?_⟩
  · exact spelled "\t " "\u00a0" true 3 4294967295 [] (by decide) (by decide)
  · exact spelled [] [] false 0 4294967297 [] (by decide) (by decide)
  · exact shapeless [] [] (number?_eq_none_iff.mp (by decide))
  · exact shapeless " ٣" [] (number?_eq_none_iff.mp (by decide))
  · have read : classify "x.proto:+007:12: 'Foo' - message names" =
        .ok (.make (.style .messageCase) .plugin "x.proto:+007:12: 'Foo' - message names" "x.proto"
          7 12 (some "Foo")) := by
      rfl
    have fields : Fields "x.proto:+007:12: 'Foo' - message names" .plugin (some "+007")
        (some "12") :=
      @Fields.style _ "x.proto:+007:12: 'Foo'" "message names" "x" ":+007:12:"
        (contains_eq_false_iff.mp (by decide)) (by rfl) (by rfl)
    obtain ⟨-, gives⟩ := (lines _ _ _ _ fields).1 _ read
    exact ⟨_, read, gives⟩
  · have fields : Fields "x.proto:4294967296: Missing field number." .compiler
        (some "4294967296") none :=
      @Fields.compile _ "x.proto:4294967296" "Missing field number." .missingFieldNumber
        (.inr (by rfl)) (by rfl) (contains_iff.mp (by decide))
    apply (lines _ _ _ _ fields).2.1
    refine Or.inl fun n gives => ?_
    have refused : position "4294967296" [] = .error ⟨.invalidPosition "4294967296", []⟩ := by rfl
    rw [position_eq_ok_iff.mpr gives] at refused
    cases refused

end SchemaLint.Line
