import SchemaLint.Line.Classify
import SchemaLint.Proofs.Line.Basic

/-!
# Style issues: reading inverts printing

`StyleParts line` holds the parts that `style` finds in a line together with the
reasons why it finds them, and `style_eq_some_iff` says that these parts are all
there is to a reading. What a reading gives can be printed again: the file is a
`PluginFile`, the numbers are positions, and the context is free of quotes at its
ends and of the delimiter. `style_printStyle` reads such a print back, since no
delimiter can occur across the seams that `printStyle` makes.
-/

namespace SchemaLint.Line

open Text

/-! ## The parts of a style issue -/

/-- The parts of a line that reads as a style issue. -/
structure StyleParts (line : Text) where
  head : Text
  message : Text
  /-- The file without its ending. -/
  stem : Text
  /-- What follows the file up to the first space. -/
  place : Text
  rule : StyleRule
  lineNumber : Nat
  column : Nat
  noWarning : ¬ warningMark <:+: line
  divided : halves? styleDelimiter line = some (head, message)
  named : cut? protoEnding (before ' ' head) = some (stem, place)
  lineRead : position ((place.splitOnP (· == ':'))[1]?.getD []) line = .ok lineNumber
  columnRead : position ((place.splitOnP (· == ':'))[2]?.getD []) line = .ok column
  known : styleRule? message = some rule

namespace StyleParts

variable {line : Text}

/-- The file that the parts name. -/
def file (p : StyleParts line) : Text := p.stem ++ protoEnding

/-- What stands between the first space and the delimiter. -/
def remainder (p : StyleParts line) : Text := (after? ' ' p.head).getD []

/-- The record that the parts make. -/
def record (p : StyleParts line) : Record :=
  .make (.style p.rule) .plugin line p.file p.lineNumber p.column (styleContext? p.remainder)

end StyleParts

/-- A line with the shape of a style issue is read by its numbers and then its message. -/
theorem style_of_fields {line head message stem place : Text} (noWarning : ¬ warningMark <:+: line)
    (divided : halves? styleDelimiter line = some (head, message))
    (named : cut? protoEnding (before ' ' head) = some (stem, place)) :
    style line = (do
      let lineNumber ← position ((place.splitOnP (· == ':'))[1]?.getD []) line
      let column ← position ((place.splitOnP (· == ':'))[2]?.getD []) line
      let rule ← styleRule message line
      return some (.make (.style rule) .plugin line (stem ++ protoEnding) lineNumber column
        (styleContext? ((after? ' ' head).getD [])))) := by
  unfold style
  rw [isInternalWarning_eq_false_iff.mpr noWarning, divided]
  simp only [Bool.false_eq_true, if_false, named]

/-- A line reads as a style issue exactly by its parts. -/
theorem style_eq_some_iff {line : Text} {r : Record} :
    style line = .ok (some r) ↔ ∃ p : StyleParts line, p.record = r := by
  constructor
  · intro h
    unfold style at h
    split at h
    · cases h
    next notWarning =>
    split at h
    · cases h
    next head message divided =>
    dsimp only at h
    split at h
    · cases h
    next stem place named =>
    obtain ⟨lineNumber, lineRead, h⟩ := bind_eq_ok_iff.mp h
    obtain ⟨column, columnRead, h⟩ := bind_eq_ok_iff.mp h
    obtain ⟨rule, known, h⟩ := bind_eq_ok_iff.mp h
    cases h
    exact ⟨⟨head, message, stem, place, rule, lineNumber, column,
      isInternalWarning_eq_false_iff.mp (by simpa using notWarning), divided, named, lineRead,
      columnRead, styleRule_eq_ok_iff.mp known⟩, rfl⟩
  · rintro ⟨p, rfl⟩
    rw [style_of_fields p.noWarning p.divided p.named, p.lineRead, p.columnRead,
      styleRule_eq_ok_iff.mpr p.known]
    rfl

/-! ## Files as the plugin names them -/

/-- A file as the plugin names it: it holds no space, and `.proto` once, at its
end. -/
structure PluginFile (file : Text) : Prop where
  noSpace : ' ' ∉ file
  ending : protoEnding <:+ file
  once : ∀ a b, file = a ++ protoEnding ++ b → b = []

/-- The file is what a text up to its first `.proto` is. -/
theorem PluginFile.of_cut? {t stem rest : Text} (noSpace : ' ' ∉ t)
    (h : cut? protoEnding t = some (stem, rest)) : PluginFile (stem ++ protoEnding) where
  noSpace held := by
    rw [cut?_eq_some h] at noSpace
    exact noSpace (List.mem_append_left rest held)
  ending := List.suffix_append stem protoEnding
  once a b same := by
    rcases List.eq_nil_or_concat b with rfl | ⟨b, c, rfl⟩
    · rfl
    · -- All but the last character of the file would hold `.proto` already.
      have early := congrArg List.dropLast same
      rw [List.concat_eq_append, ← List.append_assoc, List.dropLast_concat,
        List.dropLast_append_of_ne_nil (by decide)] at early
      exact (not_infix_of_cut? (by decide) h ⟨a, b, early.symm⟩).elim

/-- Whatever follows the file, the first cut falls at its end. -/
theorem PluginFile.exists_cut? {file : Text} (h : PluginFile file) (rest : Text) :
    ∃ stem, file = stem ++ protoEnding ∧ cut? protoEnding (file ++ rest) = some (stem, rest) := by
  obtain ⟨stem, rfl⟩ := h.ending
  refine ⟨stem, rfl, cut?_append (by decide) ?_⟩
  rintro ⟨a, b, early⟩
  have whole : stem ++ protoEnding = a ++ protoEnding ++ (b ++ ['o']) := by
    have ending : protoEnding.dropLast ++ ['o'] = protoEnding := rfl
    rw [← List.append_assoc, early, List.append_assoc, ending]
  simpa using h.once a _ whole

/-! ## What a reading gives -/

/-- A context that is empty counts as none. -/
theorem styleContext?_eq (remainder : Text) :
    styleContext? remainder =
      if trimBy isQuote (trim remainder) = [] then none
      else some (trimBy isQuote (trim remainder)) := by
  unfold styleContext?
  split
  · next none => rw [if_pos none]
  · next some => rw [if_neg some]

theorem getD_styleContext? (remainder : Text) :
    (styleContext? remainder).getD [] = trimBy isQuote (trim remainder) := by
  rw [styleContext?_eq]
  split
  · next none => exact none.symm
  · rfl

namespace StyleParts

variable {line : Text} (p : StyleParts line)

theorem line_eq : line = p.head ++ styleDelimiter ++ p.message :=
  cut?_eq_some (halves?_eq_some_iff.mp p.divided).1

/-- The only delimiter is the one between head and message. -/
theorem not_infix_head : ¬ styleDelimiter <:+: p.head := fun occurs =>
  not_infix_of_cut? (by decide) (halves?_eq_some_iff.mp p.divided).1
    (List.infix_append_of_infix_left occurs)

theorem not_infix_message : ¬ styleDelimiter <:+: p.message :=
  (halves?_eq_some_iff.mp p.divided).2

theorem head_isInfix : p.head <:+: line :=
  ⟨[], styleDelimiter ++ p.message, by simpa using p.line_eq.symm⟩

theorem message_isInfix : p.message <:+: line :=
  ⟨p.head ++ styleDelimiter, [], by simpa using p.line_eq.symm⟩

theorem pluginFile : PluginFile p.file :=
  .of_cut? (not_mem_before ' ' p.head) p.named

theorem file_isInfix_head : p.file <:+: p.head := by
  refine List.IsInfix.trans ?_ (before_isPrefix ' ' p.head).isInfix
  exact ⟨[], p.place, (cut?_eq_some p.named).symm⟩

theorem remainder_infix_head : p.remainder <:+: p.head := by
  unfold remainder
  cases found : after? ' ' p.head with
  | none => exact List.nil_infix
  | some rest =>
    exact ⟨before ' ' p.head ++ [' '], [], by simpa using (append_of_after?_eq_some found).symm⟩

/-- The context as a reading prints it again, nothing when there is none. -/
theorem context_isInfix_head : (p.record.context.getD []) <:+: p.head := by
  have context : p.record.context = styleContext? p.remainder := rfl
  rw [context, getD_styleContext?]
  exact ((trimBy_isInfix _ _).trans (trimBy_isInfix _ _)).trans p.remainder_infix_head

theorem trimmed_context : Trimmed isQuote (p.record.context.getD []) := by
  have context : p.record.context = styleContext? p.remainder := rfl
  rw [context, getD_styleContext?]
  exact trimmed_trimBy isQuote _

end StyleParts

/-! ## Reading what was printed -/

section

variable {file context message : Text} {lineNumber column : Nat}

/-- The head of a printed style issue up to its first space. -/
def printedLocator (file : Text) (lineNumber column : Nat) : Text :=
  file ++ ':' :: (numeral lineNumber ++ ':' :: (numeral column ++ [':']))

theorem printStyle_eq :
    printStyle file lineNumber column context message =
      printedLocator file lineNumber column ++ ' ' :: ('\'' :: (context ++ ['\''])) ++
        styleDelimiter ++ message := by
  simp [printStyle, printedLocator, styleDelimiter]

/-- The mark of a warning does not reach across the seams of a printed issue. -/
theorem warningMark_infix_printStyle_iff :
    warningMark <:+: printStyle file lineNumber column context message ↔
      warningMark <:+: file ∨ warningMark <:+: context ∨ warningMark <:+: message := by
  have pieces : printStyle file lineNumber column context message =
      file ++ ':' :: (numeral lineNumber ++ ':' :: (numeral column ++ ':' ::
        ([' '] ++ '\'' :: (context ++ '\'' :: (styleDelimiter ++ message))))) := by
    simp [printStyle, styleDelimiter]
  have noNumeral (n : Nat) : ¬ warningMark <:+: numeral n :=
    not_infix_of_not_mem (c := '[') (by decide) (not_mem_numeral n (by decide))
  have noSpace : ¬ warningMark <:+: [' '] :=
    not_infix_of_not_mem (c := '[') (by decide) (by decide)
  have last : warningMark <:+: styleDelimiter ++ message ↔ warningMark <:+: message :=
    cons_infix_append_iff (c := '[') (by decide)
  rw [pieces, infix_append_cons_iff (by decide), infix_append_cons_iff (by decide),
    infix_append_cons_iff (by decide), infix_append_cons_iff (by decide),
    infix_append_cons_iff (by decide), last]
  simp only [noNumeral, noSpace, false_or]

/-- Neither does the delimiter before the place where it is printed. -/
theorem not_infix_printed_head (noSpace : ' ' ∉ file) (inner : ¬ styleDelimiter <:+: context) :
    ¬ styleDelimiter <:+:
      printedLocator file lineNumber column ++ ' ' :: ('\'' :: (context ++ ['\''])) ++
        styleDelimiter.dropLast := by
  have pieces : printedLocator file lineNumber column ++ ' ' :: ('\'' :: (context ++ ['\''])) ++
        styleDelimiter.dropLast =
      file ++ ':' :: (numeral lineNumber ++ ':' :: (numeral column ++ ':' ::
        ([' '] ++ '\'' :: (context ++ '\'' :: styleDelimiter.dropLast)))) := by
    simp [printedLocator]
  have noNumeral (n : Nat) : ¬ styleDelimiter <:+: numeral n :=
    not_infix_of_not_mem (c := ' ') (by decide) (not_mem_numeral n (by decide))
  have noFile : ¬ styleDelimiter <:+: file := not_infix_of_not_mem (by decide) noSpace
  rw [pieces, infix_append_cons_iff (by decide), infix_append_cons_iff (by decide),
    infix_append_cons_iff (by decide), infix_append_cons_iff (by decide),
    infix_append_cons_iff (by decide)]
  simp only [noFile, noNumeral, inner, false_or, not_or]
  exact ⟨fun occurs => absurd occurs.length_le (by decide),
    fun occurs => absurd occurs.length_le (by decide)⟩

theorem halves?_printStyle (noSpace : ' ' ∉ file) (inner : ¬ styleDelimiter <:+: context)
    (after : ¬ styleDelimiter <:+: message) :
    halves? styleDelimiter (printStyle file lineNumber column context message) =
      some (printedLocator file lineNumber column ++ ' ' :: ('\'' :: (context ++ ['\''])),
        message) := by
  rw [printStyle_eq, halves?_eq_some_iff]
  exact ⟨cut?_append (by decide) (not_infix_printed_head noSpace inner), after⟩

theorem not_mem_printedLocator (noSpace : ' ' ∉ file) :
    ' ' ∉ printedLocator file lineNumber column := by
  have noNumeral (n : Nat) : ' ' ∉ numeral n := not_mem_numeral n (by decide)
  simp [printedLocator, noSpace, noNumeral]

/-- The quotes around a printed context come off, and nothing more. -/
theorem styleContext?_quoted (trimmed : Trimmed isQuote context) :
    styleContext? ('\'' :: (context ++ ['\''])) = if context = [] then none else some context := by
  have blanks : trim ('\'' :: (context ++ ['\''])) = '\'' :: (context ++ ['\'']) := by
    refine trimBy_eq_self ⟨?_, ?_⟩
    · rintro c ⟨⟩
      decide
    · rw [← List.cons_append, List.getLast?_concat]
      rintro c ⟨⟩
      decide
  have quotes : trimBy isQuote ('\'' :: (context ++ ['\''])) = context :=
    trimBy_append (a := ['\'']) (b := ['\'']) trimmed (List.forall_mem_singleton.mpr rfl)
      (List.forall_mem_singleton.mpr rfl)
  rw [styleContext?_eq, blanks, quotes]

/-- The fields between the colons after a printed file. -/
theorem splitOnP_printed_place :
    (':' :: (numeral lineNumber ++ ':' :: (numeral column ++ [':']))).splitOnP (· == ':') =
      [[], numeral lineNumber, numeral column, []] := by
  have noColon (n : Nat) : ∀ c ∈ numeral n, (c == ':') = false := by
    intro c held
    rw [beq_eq_false_iff_ne]
    rintro rfl
    exact not_mem_numeral n (by decide) held
  rw [← List.nil_append (':' :: _), List.splitOnP_append_cons_of_forall_mem (by simp) ':' rfl,
    List.splitOnP_append_cons_of_forall_mem (noColon lineNumber) ':' rfl,
    List.splitOnP_append_cons_of_forall_mem (noColon column) ':' rfl]
  rfl

/-- A printed style issue reads as the issue that was printed. -/
theorem style_printStyle {rule : StyleRule} (named : PluginFile file)
    (lineRange : IsPosition lineNumber) (columnRange : IsPosition column)
    (trimmed : Trimmed isQuote context) (inner : ¬ styleDelimiter <:+: context)
    (after : ¬ styleDelimiter <:+: message) (known : styleRule? message = some rule)
    (noWarning : ¬ warningMark <:+: printStyle file lineNumber column context message) :
    style (printStyle file lineNumber column context message) =
      .ok (some (.make (.style rule) .plugin
        (printStyle file lineNumber column context message) file lineNumber column
        (if context = [] then none else some context))) := by
  have noSpace : ' ' ∉ printedLocator file lineNumber column :=
    not_mem_printedLocator named.noSpace
  obtain ⟨stem, file_eq, cut⟩ := named.exists_cut?
    (':' :: (numeral lineNumber ++ ':' :: (numeral column ++ [':'])))
  let parts : StyleParts (printStyle file lineNumber column context message) :=
    { head := printedLocator file lineNumber column ++ ' ' :: ('\'' :: (context ++ ['\'']))
      message, stem, rule, lineNumber, column, noWarning, known
      place := ':' :: (numeral lineNumber ++ ':' :: (numeral column ++ [':']))
      divided := halves?_printStyle named.noSpace inner after
      named := by rw [before_append_cons noSpace]; exact cut
      lineRead := by
        rw [splitOnP_printed_place]
        exact position_numeral lineRange _
      columnRead := by
        rw [splitOnP_printed_place]
        exact position_numeral columnRange _ }
  have remainder : parts.remainder = '\'' :: (context ++ ['\'']) := by
    rw [StyleParts.remainder, after?_append_cons noSpace, Option.getD_some]
  refine style_eq_some_iff.mpr ⟨parts, ?_⟩
  rw [StyleParts.record, remainder, styleContext?_quoted trimmed, StyleParts.file, ← file_eq]

end

/-! ## Reading, printing and reading again -/

/-- The print of what was read is no warning either. -/
theorem StyleParts.not_infix_reprint {line : Text} (p : StyleParts line) :
    ¬ warningMark <:+: printStyle p.file p.lineNumber p.column (p.record.context.getD [])
      p.message := by
  rw [warningMark_infix_printStyle_iff]
  rintro (file | context | message)
  · exact p.noWarning (file.trans (p.file_isInfix_head.trans p.head_isInfix))
  · exact p.noWarning (context.trans (p.context_isInfix_head.trans p.head_isInfix))
  · exact p.noWarning (message.trans p.message_isInfix)

/-- The print of what was read is read again, with the same fields. -/
theorem StyleParts.style_reprint {line : Text} (p : StyleParts line) :
    style (printStyle p.file p.lineNumber p.column (p.record.context.getD []) p.message) =
      .ok (some (.make p.record.kind .plugin
        (printStyle p.file p.lineNumber p.column (p.record.context.getD []) p.message)
        p.file p.lineNumber p.column p.record.context)) := by
  have context : (if p.record.context.getD [] = [] then none
      else some (p.record.context.getD [])) = p.record.context := by
    have read : p.record.context = styleContext? p.remainder := rfl
    rw [read, getD_styleContext?, styleContext?_eq]
  rw [style_printStyle p.pluginFile (isPosition_of_position p.lineRead)
    (isPosition_of_position p.columnRead) p.trimmed_context
    (fun occurs => p.not_infix_head (occurs.trans p.context_isInfix_head))
    p.not_infix_message p.known p.not_infix_reprint, context]
  rfl

theorem classify_of_style {line : Text} {r : Record} (h : style line = .ok (some r)) :
    classify line = .ok r := by
  rw [classify, h]
  rfl

/-- Reading a style issue inverts printing it. A printed issue is classified with
exactly the fields that were printed, and the fields of any line that reads as a
style issue, printed with the line's own message, read as the same fields. -/
theorem style_round_trip :
    (∀ (file context message : Text) (lineNumber column : Nat) (rule : StyleRule),
      PluginFile file → IsPosition lineNumber → IsPosition column →
      Trimmed isQuote context → ¬ styleDelimiter <:+: context →
      ¬ styleDelimiter <:+: message → styleRule? message = some rule →
      ¬ warningMark <:+: printStyle file lineNumber column context message →
      ∃ r, classify (printStyle file lineNumber column context message) = .ok r ∧
        r.kind = .style rule ∧ r.origin = .plugin ∧ r.file = file ∧ r.line = lineNumber ∧
        r.column = column ∧ r.context = if context = [] then none else some context) ∧
    ∀ (line : Text) (r : Record), style line = .ok (some r) →
      ∃ head message, halves? styleDelimiter line = some (head, message) ∧
      ∃ again, style (printStyle r.file r.line r.column (r.context.getD []) message) =
          .ok (some again) ∧
        again.kind = r.kind ∧ again.file = r.file ∧ again.line = r.line ∧
        again.column = r.column ∧ again.context = r.context := by
  constructor
  · intro file context message lineNumber column rule named lineRange columnRange trimmed inner
      after known noWarning
    have read := style_printStyle named lineRange columnRange trimmed inner after known noWarning
    exact ⟨_, classify_of_style read, rfl, rfl, rfl, rfl, rfl, rfl⟩
  · intro line r read
    obtain ⟨p, rfl⟩ := style_eq_some_iff.mp read
    exact ⟨p.head, p.message, p.divided, _, p.style_reprint, rfl, rfl, rfl, rfl, rfl⟩

/-- A printed issue whose context holds quotes and colons of its own, and a line
with a signed number, leading zeros, spare blanks and doubled quotes. -/
theorem style_round_trip_quoted :
    (∃ r, classify (printStyle "a:b/x.proto" 4294967295 1 "it's: a" "Bad FIELD names.") = .ok r ∧
      r.kind = .style .fieldCase ∧ r.origin = .plugin ∧ r.file = "a:b/x.proto" ∧
      r.line = 4294967295 ∧ r.column = 1 ∧ r.context = some "it's: a") ∧
    ∃ again, style (printStyle "x.proto" 7 12 " Foo" " message names") = .ok (some again) ∧
      again.kind = .style .messageCase ∧ again.file = "x.proto" ∧ again.line = 7 ∧
      again.column = 12 ∧ again.context = some " Foo" := by
  constructor
  · have cut : cut? protoEnding "a:b/x.proto" = some (("a:b/x" : Text), []) := by decide
    have named : PluginFile "a:b/x.proto" := .of_cut? (by decide) cut
    exact style_round_trip.1 "a:b/x.proto" "it's: a" "Bad FIELD names." 4294967295 1 .fieldCase
      named (by decide) (by decide) (by decide) (contains_eq_false_iff.mp (by decide))
      (contains_eq_false_iff.mp (by decide)) (by decide) (contains_eq_false_iff.mp (by decide))
  · have read : style "x.proto:007:+12: \"' Foo'\"  -  message names" =
        .ok (some (.make (.style .messageCase) .plugin
          "x.proto:007:+12: \"' Foo'\"  -  message names" "x.proto" 7 12 (some " Foo"))) := by
      rfl
    obtain ⟨head, message, divided, again⟩ := style_round_trip.2 _ _ read
    have known : halves? styleDelimiter "x.proto:007:+12: \"' Foo'\"  -  message names" =
        some (("x.proto:007:+12: \"' Foo'\" " : Text), (" message names" : Text)) := by rfl
    cases divided.symm.trans known
    exact again

end SchemaLint.Line
