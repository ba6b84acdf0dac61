import SchemaLint.Proofs.Line.Warning
import SchemaLint.Proofs.Text.Words

/-!
# What a compiler warning gives

A warning names its file in a sentence, so the file is a word among others, often with
the sentence's period at its end. `NamesFile` says where such a word stands; it is found
there whatever is around it, and one period comes off (`warningFile?_of_namesFile`). A
line with the warning mark is never passed on: without exactly one bracket it is
malformed, without a word that names a schema file it is refused for that, and otherwise
the message decides (`internal_of_divided`).
-/

namespace SchemaLint

namespace Text

/-! ## Dividing at a character -/

theorem singleton_infix_iff {c : Char} {t : Text} : [c] <:+: t ↔ c ∈ t := by
  refine ⟨fun occurs => occurs.subset List.mem_cons_self, fun held => ?_⟩
  obtain ⟨a, b, rfl⟩ := List.append_of_mem held
  exact ⟨a, b, by simp⟩

theorem halves?_singleton_iff {c : Char} {t left right : Text} :
    halves? [c] t = some (left, right) ↔ t = left ++ c :: right ∧ c ∉ left ∧ c ∉ right := by
  rw [halves?_eq_some_iff, cut?_eq_some_iff (List.cons_ne_nil c []), singleton_infix_iff,
    singleton_infix_iff, List.dropLast_singleton, List.append_nil, List.append_assoc,
    List.singleton_append, and_assoc]

/-- A character divides a text into halves exactly when it occurs once. -/
theorem exists_halves?_iff {c : Char} {t : Text} :
    (∃ left right, halves? [c] t = some (left, right)) ↔ t.count c = 1 := by
  constructor
  · rintro ⟨left, right, divided⟩
    obtain ⟨rfl, before, after⟩ := halves?_singleton_iff.mp divided
    rw [List.count_append, List.count_cons_self, List.count_eq_zero.mpr before,
      List.count_eq_zero.mpr after]
  · intro once
    obtain ⟨left, right, rfl⟩ :=
      List.append_of_mem (List.count_pos_iff.mp (by rw [once]; exact Nat.one_pos))
    rw [List.count_append, List.count_cons_self] at once
    exact ⟨left, right, halves?_singleton_iff.mpr
      ⟨rfl, List.count_eq_zero.mp (by omega), List.count_eq_zero.mp (by omega)⟩⟩

end Text

namespace Line

open Text

variable {line place head lead word file trail message : Text} {rule : StyleRule}

/-! ## The message -/

/-- Blanks around a message say nothing about its rule. -/
theorem styleRule?_trim (message : Text) : styleRule? (trim message) = styleRule? message := by
  obtain ⟨a, b, whole, before, after⟩ := exists_trimBy isBlankChar message
  have markers : ∀ rule : StyleRule, rule.marker ≠ [] ∧ Trimmed isBlankChar rule.marker := by
    intro rule
    cases rule <;> decide
  have lower : lowerCase message = a ++ lowerCase (trim message) ++ b := by
    rw [trim]
    conv => lhs; rw [whole, lowerCase_append, lowerCase_append, lowerCase_of_blank before,
      lowerCase_of_blank after]
  unfold styleRule?
  congr 1
  funext rule
  rw [Bool.eq_iff_iff, contains_iff, contains_iff, lower]
  exact (infix_around_iff (markers rule).1 (markers rule).2 before after).symm

/-! ## The file -/

/-- A message in which `word` stands between `lead` and `trail`, apart from both, and is
the first word with the ending of schema files. -/
structure NamesFile (lead word trail : Text) : Prop where
  solid : ∀ c ∈ word, isBlankChar c = false
  ending : protoEnding <:+: word
  apartBefore : ∀ c ∈ lead.getLast?, isBlankChar c = true
  apartAfter : ∀ c ∈ trail.head?, isBlankChar c = true
  first : ∀ w ∈ words lead, ¬ protoEnding <:+: w

namespace NamesFile

/-- The period of the sentence does not part from the word. -/
theorem withPeriod (names : NamesFile lead file trail) :
    NamesFile lead (file ++ ['.']) trail where
  solid c held := by
    rcases List.mem_append.mp held with held | held
    · exact names.solid c held
    · rw [List.mem_singleton.mp held]
      decide
  ending := List.infix_append_of_infix_left names.ending
  apartBefore := names.apartBefore
  apartAfter := names.apartAfter
  first := names.first

theorem words_eq (names : NamesFile lead word trail) :
    words (lead ++ word ++ trail) = words lead ++ word :: words trail := by
  have ne : word ≠ [] := by
    rintro rfl
    exact absurd names.ending (contains_eq_false_iff.mp rfl)
  rw [words_append_of_head names.apartAfter, words_append_of_last names.apartBefore,
    words_of_solid ne names.solid, List.append_assoc, List.singleton_append]

end NamesFile

theorem warningFile?_of_namesFile (names : NamesFile lead word trail) :
    warningFile? (trim (lead ++ word ++ trail)) = some (dropEnding ['.'] word) := by
  have early : (words lead).find? (contains protoEnding) = none := by
    rw [List.find?_eq_none]
    exact fun w held found => names.first w held (contains_iff.mp found)
  rw [warningFile?, words_trim, names.words_eq, List.find?_append, early, Option.none_or,
    List.find?_cons_of_pos (contains_iff.mpr names.ending), Option.map_some]

theorem warningFile?_eq_none_iff :
    warningFile? (trim message) = none ↔ ∀ w ∈ words message, ¬ protoEnding <:+: w := by
  simp only [warningFile?, words_trim, Option.map_eq_none_iff, List.find?_eq_none, contains_iff]

theorem dropEnding_append (ending t : Text) : dropEnding ending (t ++ ending) = t := by
  have ends : endsWith ending (t ++ ending) = true :=
    List.isSuffixOf_iff_suffix.mpr (List.suffix_append t ending)
  rw [dropEnding, if_pos ends, List.length_append, Nat.add_sub_cancel, List.take_left' rfl]

theorem dropEnding_eq_self {ending t : Text} (other : ¬ ending <:+ t) : dropEnding ending t = t :=
  if_neg fun ends => other (List.isSuffixOf_iff_suffix.mp ends)

/-! ## The line -/

section

variable (marked : warningMark <:+: line) (divided : halves? [']'] line = some (head, message))
include marked divided

theorem internal_of_nameless (nameless : warningFile? (trim message) = none) :
    internal line = .error ⟨.missingFile, line⟩ := by
  rw [internal, show isInternalWarning line = true from contains_iff.mpr marked, divided]
  dsimp only
  rw [nameless]
  rfl

theorem internal_of_named (named : warningFile? (trim message) = some file) :
    internal line = (styleRule message line).map fun rule =>
      some (.make (.style rule) .compilerWarning line file 1 1 none) := by
  have sameRule : styleRule (trim message) line = styleRule message line := by
    rw [styleRule, styleRule?_trim, ← styleRule]
  rw [internal, show isInternalWarning line = true from contains_iff.mpr marked, divided]
  dsimp only
  rw [named, sameRule]
  cases styleRule message line <;> rfl

/-- Once the file is found, only the message can be refused. -/
theorem fault_of_named {e : LineError} (named : warningFile? (trim message) = some file)
    (refused : internal line = .error e) : e.fault = .unknownStyle := by
  rw [internal_of_named marked divided named, styleRule] at refused
  split at refused
  · cases refused
  · cases refused
    rfl

theorem internal_eq_missingFile_iff :
    internal line = .error ⟨.missingFile, line⟩ ↔ ∀ w ∈ words message, ¬ protoEnding <:+: w := by
  rw [← warningFile?_eq_none_iff]
  refine ⟨fun missing => ?_, internal_of_nameless marked divided⟩
  cases named : warningFile? (trim message) with
  | none => rfl
  | some file => exact absurd (fault_of_named marked divided named missing) nofun

theorem internal_ne_malformed : internal line ≠ .error ⟨.malformedWarning, line⟩ := by
  intro malformed
  cases named : warningFile? (trim message) with
  | none =>
    rw [internal_of_nameless marked divided named] at malformed
    cases malformed
  | some file => exact absurd (fault_of_named marked divided named malformed) nofun

end

/-- A line with the mark is malformed exactly when it has not one bracket. -/
theorem internal_eq_malformed_iff (marked : warningMark <:+: line) :
    internal line = .error ⟨.malformedWarning, line⟩ ↔ line.count ']' ≠ 1 := by
  rw [Ne, ← exists_halves?_iff]
  constructor
  · rintro malformed ⟨head, message, divided⟩
    exact internal_ne_malformed marked divided malformed
  · intro undivided
    cases divided : halves? [']'] line with
    | some parts => exact (undivided ⟨parts.1, parts.2, divided⟩).elim
    | none =>
      rw [internal, show isInternalWarning line = true from contains_iff.mpr marked, divided]
      rfl

theorem internal_eq_none_iff : internal line = .ok none ↔ ¬ warningMark <:+: line := by
  refine ⟨fun declined marked => internal_ne_none marked declined, fun unmarked => ?_⟩
  rw [internal, isInternalWarning_eq_false_iff.mpr unmarked]
  rfl

/-- A printed warning reads as its message does. -/
theorem internal_printWarning (noPlace : ']' ∉ place) (noMessage : ']' ∉ message)
    (named : warningFile? (trim message) = some file) (known : styleRule? message = some rule) :
    internal (printWarning place message) =
      .ok (some (.make (.style rule) .compilerWarning (printWarning place message) file 1 1
        none)) := by
  have printed : printWarning place message = warningMark ++ place ++ ']' :: message := by
    rw [printWarning, List.append_assoc _ _ message]
    rfl
  have marked : warningMark <:+: printWarning place message :=
    ⟨[], place ++ ']' :: message, by rw [printed, List.nil_append, List.append_assoc]⟩
  have noHead : ']' ∉ warningMark ++ place := by
    rw [List.mem_append, not_or]
    exact ⟨by decide, noPlace⟩
  rw [internal_of_named marked (halves?_singleton_iff.mpr ⟨printed, noHead, noMessage⟩) named,
    styleRule_eq_ok_iff.mpr known]
  rfl

/-- Reading a compiler warning gives back the file that its sentence names, without the
period that ends the sentence, and only that one. A line with the mark is malformed
exactly if it has not one bracket, names no file exactly if no word after the bracket
does, and only a line without the mark is left to others. -/
theorem internal_recovery :
    (∀ (place lead file period trail : Text) (rule : StyleRule),
      ']' ∉ place → ']' ∉ lead → ']' ∉ file → ']' ∉ trail → NamesFile lead file trail →
      (period = ['.'] ∨ period = [] ∧ file.getLast? ≠ some '.') →
      styleRule? (lead ++ (file ++ period) ++ trail) = some rule →
      ∃ r, internal (printWarning place (lead ++ (file ++ period) ++ trail)) = .ok (some r) ∧
        r.kind = .style rule ∧ r.origin = .compilerWarning ∧
        r.raw = printWarning place (lead ++ (file ++ period) ++ trail) ∧
        r.file = file ∧ r.line = 1 ∧ r.column = 1 ∧ r.context = none) ∧
    (∀ line, warningMark <:+: line →
      (internal line = .error ⟨.malformedWarning, line⟩ ↔ line.count ']' ≠ 1)) ∧
    (∀ head message : Text, ']' ∉ head → ']' ∉ message →
      warningMark <:+: head ++ ']' :: message →
      (internal (head ++ ']' :: message) = .error ⟨.missingFile, head ++ ']' :: message⟩ ↔
        ∀ w ∈ words message, ¬ protoEnding <:+: w)) ∧
    ∀ line, internal line = .ok none ↔ ¬ warningMark <:+: line := by
  refine ⟨?_, fun line => internal_eq_malformed_iff, ?_, fun line => internal_eq_none_iff⟩
  · intro place lead file period trail rule noPlace noLead noFile noTrail names ends known
    have named : warningFile? (trim (lead ++ (file ++ period) ++ trail)) = some file := by
      rcases ends with rfl | ⟨rfl, other⟩
      · rw [warningFile?_of_namesFile names.withPeriod, dropEnding_append]
      · rw [List.append_nil, warningFile?_of_namesFile names,
          dropEnding_eq_self (mt List.singleton_suffix_iff_getLast?_eq_some.mp other)]
    have noPeriod : ']' ∉ period := by
      rcases ends with rfl | ⟨rfl, -⟩ <;> decide
    have noMessage : ']' ∉ lead ++ (file ++ period) ++ trail := by
      simp only [List.mem_append, not_or]
      exact ⟨⟨noLead, noFile, noPeriod⟩, noTrail⟩
    exact ⟨_, internal_printWarning noPlace noMessage named known, rfl, rfl, rfl, rfl, rfl, rfl,
      rfl⟩
  · intro head message noHead noMessage marked
    exact internal_eq_missingFile_iff marked
      (halves?_singleton_iff.mpr ⟨rfl, noHead, noMessage⟩)

/-- A file whose name ends in a period of its own, before a second file; a message that
is only the file and a phrase; a second bracket; and a mark after the bracket. -/
theorem internal_recovery_sentences :
    (∃ r, internal (printWarning " parser.cc:562" (("\u00a0No syntax specified for: " : Text) ++
        (("x.proto." : Text) ++ ['.']) ++ ("\tImported by y.proto" : Text))) = .ok (some r) ∧
      r.kind = .style .syntaxUnspecified ∧ r.origin = .compilerWarning ∧ r.file = "x.proto." ∧
      r.line = 1 ∧ r.column = 1 ∧ r.context = none) ∧
    (∃ r, internal (printWarning [] ([] ++ (("a.protobuf" : Text) ++ []) ++
        (" METHOD names" : Text))) = .ok (some r) ∧
      r.kind = .style .rpcMethodCase ∧ r.file = "a.protobuf") ∧
    internal "[libprotobuf WARNING a] no syntax specified] x.proto" =
      .error ⟨.malformedWarning, "[libprotobuf WARNING a] no syntax specified] x.proto"⟩ ∧
    internal (("x.proto" : Text) ++ ']' :: (" [libprotobuf WARNING message names" : Text)) =
      .error ⟨.missingFile,
        ("x.proto" : Text) ++ ']' :: (" [libprotobuf WARNING message names" : Text)⟩ := by
  have occurs {needle t : Text} (found : contains needle t = true) : needle <:+: t :=
    contains_iff.mp found
  have noWord {lead : Text} (none : (words lead).all (!contains protoEnding ·) = true) :
      ∀ w ∈ words lead, ¬ protoEnding <:+: w := by
    intro w held
    have absent := List.all_eq_true.mp none w held
    exact contains_eq_false_iff.mp (by simpa using absent)
  have solid {word : Text} (none : word.any isBlankChar = false) :
      ∀ c ∈ word, isBlankChar c = false := by
    intro c held
    exact Bool.eq_false_iff.mpr (List.any_eq_false.mp none c held)
  have apart {edge : Option Char} (blank : edge.all isBlankChar = true) :
      ∀ c ∈ edge, isBlankChar c = true := by
    intro c held
    cases held
    exact blank
  obtain ⟨recovery, malformed, missing, -⟩ := internal_recovery
  refine ⟨?_, ?_, ?_, ?_⟩
  · have names : NamesFile "\u00a0No syntax specified for: " "x.proto." "\tImported by y.proto" :=
      ⟨solid (by decide), occurs (by decide), apart (by decide), apart (by decide),
        noWord (by decide)⟩
    obtain ⟨r, read, kind, origin, -, file, line, column, context⟩ := recovery " parser.cc:562"
      "\u00a0No syntax specified for: " "x.proto." ['.'] "\tImported by y.proto"
      .syntaxUnspecified (by decide) (by decide) (by decide) (by decide) names (.inl rfl)
      (by decide)
    exact ⟨r, read, kind, origin, file, line, column, context⟩
  · have names : NamesFile [] "a.protobuf" " METHOD names" :=
      ⟨solid (by decide), occurs (by decide), apart (by decide), apart (by decide),
        noWord (by decide)⟩
    obtain ⟨r, read, kind, -, -, file, -⟩ := recovery [] [] "a.protobuf" [] " METHOD names"
      .rpcMethodCase (by decide) (by decide) (by decide) (by decide) names
      (.inr ⟨rfl, by decide⟩) (by decide)
    exact ⟨r, read, kind, file⟩
  · exact (malformed _ (occurs (by decide))).mpr (by decide)
  · exact (missing _ _ (by decide) (by decide) (occurs (by decide))).mpr (noWord (by decide))

end Line

end SchemaLint
