import SchemaLint.Proofs.Line.Classify
import SchemaLint.Proofs.Template

/-!
# The identity of a record identifies the issue

An identity joins its parts by `::`, which files, contexts and messages may hold
as well, so the join alone does not determine the parts. What each shape knows of
its records does. A compile error's file has no colon, and its context no double
quote; a plugin's file ends at its first `.proto`; a warning has no position and
no context, so only the file is open and the length decides.

The import that was not found is the worst case: its context may hold anything
but a quote and stands at both ends, in the message and as the last part. The
text between holds the same number of colons in both identities and ends in one,
which leaves no room for a longer context (`append_append_self_inj_of_count`).
-/

namespace SchemaLint

open Text Line

namespace Record

/-! ## The parts of an identity -/

/-- The part of an identity between file and context. -/
def positionText (r : Record) : Text :=
  if r.isSuppressed then []
  else numeral r.line ++ ':' :: ':' :: (numeral r.column ++ [':', ':'])

/-- The parts of an identity from the file on. -/
def placeText (r : Record) : Text :=
  r.file ++ ':' :: ':' :: (r.positionText ++ r.context.getD [])

theorem identity_eq (r : Record) :
    r.identity =
      ['v', '1', ':', ':'] ++
        (r.kind.name ++ ':' :: ':' :: (r.message ++ ':' :: ':' :: r.placeText)) := by
  cases suppressed : r.isSuppressed <;>
    simp [identity, identityParts, identityVersion, join, placeText, positionText, suppressed]

theorem not_mem_kind_name (k : Kind) : ':' ∉ k.name := by
  cases k with
  | style rule => cases rule <;> decide
  | compile error => cases error <;> decide

/-- What follows the separator is determined when what stands before it is known. -/
theorem eq_of_append_separator {a b b' : Text}
    (same : a ++ ':' :: ':' :: b = a ++ ':' :: ':' :: b') : b = b' := by
  simpa using same

variable {r r' : Record}

/-- Equal identities have equal kinds, and equal texts from the message on. -/
theorem kind_eq_of_identity (same : r.identity = r'.identity) :
    r.kind = r'.kind ∧
      r.message ++ ':' :: ':' :: r.placeText = r'.message ++ ':' :: ':' :: r'.placeText := by
  rw [identity_eq, identity_eq] at same
  obtain ⟨name, rest⟩ := append_cons_inj (not_mem_kind_name _) (not_mem_kind_name _)
    (List.append_cancel_left same)
  refine ⟨Option.some.inj ?_, List.cons.inj rest |>.2⟩
  rw [← Kind.ofName?_name r.kind, name, Kind.ofName?_name]

/-- A position is determined, and so is what follows it. -/
theorem positions_eq {t t' : Text} (reported : r.isSuppressed = false)
    (reported' : r'.isSuppressed = false) (same : r.positionText ++ t = r'.positionText ++ t') :
    r.line = r'.line ∧ r.column = r'.column ∧ t = t' := by
  have noColon (n : Nat) : ':' ∉ numeral n := not_mem_numeral n (by decide)
  simp only [positionText, reported, reported', Bool.false_eq_true, if_false, List.append_assoc,
    List.cons_append, List.nil_append] at same
  obtain ⟨line, rest⟩ := append_cons_inj (noColon _) (noColon _) same
  obtain ⟨column, rest⟩ := append_cons_inj (noColon _) (noColon _) (List.cons.inj rest).2
  exact ⟨numeral_injective line, numeral_injective column, (List.cons.inj rest).2⟩

/-- What makes two records reports of one issue. -/
structure SameIssue (r r' : Record) : Prop where
  kind : r.kind = r'.kind
  message : r.message = r'.message
  file : r.file = r'.file
  context : r.context = r'.context
  position : r.isSuppressed = false → r.line = r'.line ∧ r.column = r'.column

/-- The message follows from the other parts, as it is what stands before them. -/
theorem SameIssue.of_parts (kind : r.kind = r'.kind) (file : r.file = r'.file)
    (context : r.context = r'.context)
    (position : r.isSuppressed = false → r.line = r'.line ∧ r.column = r'.column)
    (same : r.message ++ ':' :: ':' :: r.placeText = r'.message ++ ':' :: ':' :: r'.placeText) :
    SameIssue r r' := by
  refine ⟨kind, ?_, file, context, position⟩
  have suppressed : r'.isSuppressed = r.isSuppressed := by rw [isSuppressed, isSuppressed, kind]
  have place : r.placeText = r'.placeText := by
    cases reported : r.isSuppressed with
    | true => simp only [placeText, positionText, suppressed, reported, if_true, file, context]
    | false =>
      obtain ⟨line, column⟩ := position reported
      simp only [placeText, positionText, suppressed, reported, file, context, line, column]
  rw [place] at same
  exact List.append_cancel_right same

/-- A file is determined when it stands in the message and the rest is known. -/
theorem file_eq_of_twice {x y b c : Text}
    (same : x ++ (b ++ ':' :: ':' :: (x ++ c)) = y ++ (b ++ ':' :: ':' :: (y ++ c))) : x = y := by
  have around : (x ++ ((b ++ [':', ':']) ++ x)) ++ c = (y ++ ((b ++ [':', ':']) ++ y)) ++ c := by
    simpa using same
  exact append_append_self_inj (List.append_cancel_right around)

section

variable (made : r.message = render r.kind.profile.template r.values)
  (made' : r'.message = render r'.kind.profile.template r'.values) (kind : r.kind = r'.kind)
  (same : r.message ++ ':' :: ':' :: r.placeText = r'.message ++ ':' :: ':' :: r'.placeText)
include made made' kind same

/-- Where the message has no placeholder, it says nothing but the kind. -/
theorem placeText_eq (slot : r.kind.slot? = none) : r.placeText = r'.placeText := by
  rw [message_eq_template made slot, message_eq_template made' (kind ▸ slot), kind] at same
  exact eq_of_append_separator same

/-- Where the message names the file, the file is what comes first. -/
theorem file_append_eq (slot : r.kind.slot? = some .file) (plain : '%' ∉ r.file)
    (plain' : '%' ∉ r'.file) :
    r.file ++ (r.kind.trail ++ ':' :: ':' :: r.placeText) =
      r'.file ++ (r.kind.trail ++ ':' :: ':' :: r'.placeText) := by
  rw [message_eq_around made slot plain,
    message_eq_around (p := .file) made' (kind ▸ slot) plain', ← kind] at same
  simpa [Placeholder.value, values] using same

/-- Where the message quotes the context, the context is what comes first. -/
theorem context_append_eq {c c' : Text} (slot : r.kind.slot? = some .context)
    (context : r.context = some c) (context' : r'.context = some c') (plain : '%' ∉ c)
    (plain' : '%' ∉ c') :
    c ++ (r.kind.trail ++ ':' :: ':' :: r.placeText) =
      c' ++ (r.kind.trail ++ ':' :: ':' :: r'.placeText) := by
  have value : Placeholder.value r.values .context = c := by
    simp only [Placeholder.value, values, context, Option.getD_some]
  have value' : Placeholder.value r'.values .context = c' := by
    simp only [Placeholder.value, values, context', Option.getD_some]
  rw [message_eq_around made slot (value ▸ plain), message_eq_around made' (kind ▸ slot)
    (value' ▸ plain'), ← kind, value, value'] at same
  simpa using same

end

end Record

/-! ## Style issues -/

/-- A file of the plugin ends at its first `.proto`, whatever follows. -/
theorem Line.PluginFile.append_inj {file file' t t' : Text} (named : PluginFile file)
    (named' : PluginFile file') (same : file ++ t = file' ++ t') : file = file' ∧ t = t' := by
  obtain ⟨stem, rfl, cut⟩ := named.exists_cut? t
  obtain ⟨stem', rfl, cut'⟩ := named'.exists_cut? t'
  rw [same, cut'] at cut
  cases cut
  exact ⟨rfl, rfl⟩

theorem Kind.slot?_style (rule : StyleRule) :
    (Kind.style rule).slot? = none ∨ (Kind.style rule).slot? = some .file := by
  cases rule <;> decide

namespace Line.StyleParts

variable {line line' : Text} (p : StyleParts line) (q : StyleParts line')

/-- The text of a context tells an empty one from none, as no context is empty. -/
theorem context_eq_of_getD
    (same : p.record.context.getD [] = q.record.context.getD []) :
    p.record.context = q.record.context := by
  have contextP : p.record.context = styleContext? p.remainder := rfl
  have contextQ : q.record.context = styleContext? q.remainder := rfl
  rw [contextP, contextQ, getD_styleContext?, getD_styleContext?] at same
  rw [contextP, contextQ, styleContext?_eq, styleContext?_eq, same]

theorem sameIssue (plain : '%' ∉ line) (plain' : '%' ∉ line')
    (same : p.record.identity = q.record.identity) : Record.SameIssue p.record q.record := by
  obtain ⟨kind, rest⟩ := Record.kind_eq_of_identity same
  have plainP : '%' ∉ p.file := fun held =>
    plain ((p.file_isInfix_head.trans p.head_isInfix).subset held)
  have plainQ : '%' ∉ q.file := fun held =>
    plain' ((q.file_isInfix_head.trans q.head_isInfix).subset held)
  -- However the message is made, the place is what is left once the file is known.
  have place : p.record.placeText = q.record.placeText := by
    rcases Kind.slot?_style p.rule with slot | slot
    · exact Record.placeText_eq rfl rfl kind rest slot
    · have files := Record.file_append_eq rfl rfl kind rest slot plainP plainQ
      exact Record.eq_of_append_separator (p.pluginFile.append_inj q.pluginFile files).2
  obtain ⟨file, after⟩ := p.pluginFile.append_inj q.pluginFile place
  obtain ⟨lineNumber, column, context⟩ :=
    Record.positions_eq rfl rfl (Record.eq_of_append_separator (a := []) after)
  exact .of_parts kind file (p.context_eq_of_getD q context) (fun _ => ⟨lineNumber, column⟩) rest

end Line.StyleParts

/-! ## Compiler warnings -/

namespace Line.WarningParts

variable {line line' : Text} (p : WarningParts line) (q : WarningParts line')

theorem sameIssue (plain : '%' ∉ line) (plain' : '%' ∉ line')
    (same : p.record.identity = q.record.identity) : Record.SameIssue p.record q.record := by
  obtain ⟨kind, rest⟩ := Record.kind_eq_of_identity same
  have plainP : '%' ∉ p.file := fun held => plain (p.file_isInfix.subset held)
  have plainQ : '%' ∉ q.file := fun held => plain' (q.file_isInfix.subset held)
  have file : p.file = q.file := by
    rcases Kind.slot?_style p.rule with slot | slot
    · exact List.append_cancel_right (Record.placeText_eq rfl rfl kind rest slot)
    · exact Record.file_eq_of_twice
        (Record.file_append_eq rfl rfl kind rest slot plainP plainQ)
  exact .of_parts kind file rfl (fun _ => ⟨rfl, rfl⟩) rest

end Line.WarningParts

/-! ## Compile errors -/

namespace Record

variable {r : Record}

/-- Between the two contexts of an identity stand as many colons as its shape has,
wherever the file and the numbers have none. -/
theorem count_positionText (reported : r.isSuppressed = false) : r.positionText.count ':' = 4 := by
  have noColon (n : Nat) : (numeral n).count ':' = 0 :=
    List.count_eq_zero.mpr (not_mem_numeral n (by decide))
  simp [positionText, reported, noColon]

theorem getLast?_positionText (reported : r.isSuppressed = false) :
    r.positionText.getLast? = some ':' := by
  have ends : r.positionText =
      (numeral r.line ++ ':' :: ':' :: (numeral r.column ++ [':'])) ++ [':'] := by
    simp [positionText, reported]
  rw [ends, List.getLast?_concat]

/-- Contexts that stand in the message and at the end are determined, where the
files hold no colon. -/
theorem context_eq_of_twice {r r' : Record} (reported : r.isSuppressed = false)
    (reported' : r'.isSuppressed = false) (noColon : ':' ∉ r.file) (noColon' : ':' ∉ r'.file)
    {b c c' : Text} (context : r.context = some c) (context' : r'.context = some c')
    (same : c ++ (b ++ ':' :: ':' :: r.placeText) = c' ++ (b ++ ':' :: ':' :: r'.placeText)) :
    c = c' ∧ r.file ++ ':' :: ':' :: r.positionText = r'.file ++ ':' :: ':' :: r'.positionText := by
  have twice :
      c ++ ((b ++ ':' :: ':' :: (r.file ++ ':' :: ':' :: r.positionText)) ++ c) =
        c' ++ ((b ++ ':' :: ':' :: (r'.file ++ ':' :: ':' :: r'.positionText)) ++ c') := by
    simpa [placeText, context, context'] using same
  have count : (b ++ ':' :: ':' :: (r.file ++ ':' :: ':' :: r.positionText)).count ':' =
      (b ++ ':' :: ':' :: (r'.file ++ ':' :: ':' :: r'.positionText)).count ':' := by
    simp only [List.count_append, List.count_cons_self, List.count_eq_zero.mpr noColon,
      List.count_eq_zero.mpr noColon', count_positionText reported, count_positionText reported']
  have last {q : Record} (reported : q.isSuppressed = false) :
      (b ++ ':' :: ':' :: (q.file ++ ':' :: ':' :: q.positionText)).getLast? = some ':' := by
    have ends : b ++ ':' :: ':' :: (q.file ++ ':' :: ':' :: q.positionText) =
        (b ++ ':' :: ':' :: (q.file ++ [':', ':'])) ++ q.positionText := by
      simp
    rw [ends, List.getLast?_append, getLast?_positionText reported]
    rfl
  obtain ⟨contexts, middle⟩ :=
    append_append_self_inj_of_count twice count (last reported) (last reported')
  exact ⟨contexts, eq_of_append_separator middle⟩

end Record

namespace Line.CompileParts

variable {line line' : Text} (p : CompileParts line) (q : CompileParts line')

/-- An error has a context exactly when its message has a place for one. -/
theorem context_eq_none_iff :
    p.context = none ↔ (Kind.compile p.error).slot? ≠ some .context := by
  have carries := p.carries
  cases found : p.context with
  | none =>
    simp only [found, CarriesContext, List.mem_cons, List.not_mem_nil, or_false] at carries
    rcases carries with error | error | error <;> simp [error, Kind.slot?]
  | some context =>
    simp only [found, CarriesContext, List.mem_cons, List.not_mem_nil, or_false] at carries
    rcases carries.2 with (error | error) | ⟨error, -⟩ <;> simp [error, Kind.slot?]

/-- Errors of one kind without a place for a context agree in having none. -/
theorem context_eq_of_slot (errors : p.error = q.error)
    (slot : (Kind.compile p.error).slot? ≠ some .context) : p.context = q.context := by
  rw [p.context_eq_none_iff.mpr slot, q.context_eq_none_iff.mpr (errors ▸ slot)]

theorem slot?_cases (error : CompileError) :
    (Kind.compile error).slot? = none ∨
      error = .fileNotFound ∧ (Kind.compile error).slot? = some .file ∨
      (Kind.compile error).slot? = some .context := by
  cases error <;> decide

theorem isSuppressed_eq_false (slot : (Kind.compile p.error).slot? ≠ some .file) :
    p.record.isSuppressed = false := by
  have suppressed : p.record.isSuppressed = (Kind.compile p.error).isSuppressed := rfl
  rw [suppressed]
  cases error : p.error <;> first | rfl | exact (slot (by rw [error]; rfl)).elim

theorem isSuppressed_of_fileNotFound (notFound : p.error = .fileNotFound) :
    p.record.isSuppressed = true := by
  have suppressed : p.record.isSuppressed = (Kind.compile p.error).isSuppressed := rfl
  rw [suppressed, notFound]
  rfl

/-- Of a file that was not found, an identity ends after the file. -/
theorem placeText_of_fileNotFound (notFound : p.error = .fileNotFound) :
    p.record.placeText = p.file ++ [':', ':'] := by
  have none : p.record.context = none := p.context_eq_none_iff.mpr (by rw [notFound]; decide)
  rw [Record.placeText, Record.positionText, none, if_pos (p.isSuppressed_of_fileNotFound notFound)]
  rfl

/-- A file without a colon is determined by what it is followed by. -/
theorem file_eq_of_append {t t' : Text}
    (same : p.file ++ ':' :: ':' :: t = q.file ++ ':' :: ':' :: t') : p.file = q.file ∧ t = t' := by
  obtain ⟨file, rest⟩ := append_cons_inj p.noColon q.noColon same
  exact ⟨file, (List.cons.inj rest).2⟩

theorem sameIssue (plain : '%' ∉ line) (plain' : '%' ∉ line')
    (same : p.record.identity = q.record.identity) : Record.SameIssue p.record q.record := by
  obtain ⟨kind, rest⟩ := Record.kind_eq_of_identity same
  have errors : p.error = q.error := Kind.compile.inj kind
  rcases slot?_cases p.error with slot | ⟨notFound, slot⟩ | slot
  · obtain ⟨file, place⟩ := p.file_eq_of_append q (Record.placeText_eq rfl rfl kind rest slot)
    obtain ⟨lineNumber, column, -⟩ := Record.positions_eq (p.isSuppressed_eq_false (by simp [slot]))
      (q.isSuppressed_eq_false (by simp [← errors, slot])) place
    have context : p.context = q.context := p.context_eq_of_slot q errors (by simp [slot])
    exact .of_parts kind file context (fun _ => ⟨lineNumber, column⟩) rest
  · have plainP : '%' ∉ p.file := fun held => plain (p.file_isInfix.subset held)
    have plainQ : '%' ∉ q.file := fun held => plain' (q.file_isInfix.subset held)
    have files := Record.file_append_eq rfl rfl kind rest slot plainP plainQ
    rw [p.placeText_of_fileNotFound notFound, q.placeText_of_fileNotFound (errors ▸ notFound)]
      at files
    have context : p.context = q.context := p.context_eq_of_slot q errors (by simp [slot])
    have suppressed := p.isSuppressed_of_fileNotFound notFound
    exact .of_parts kind (Record.file_eq_of_twice files) context
      (fun reported => by simp [suppressed] at reported) rest
  · obtain ⟨c, found⟩ := Option.ne_none_iff_exists'.mp
      (fun none => p.context_eq_none_iff.mp none slot)
    obtain ⟨c', found'⟩ := Option.ne_none_iff_exists'.mp
      (fun none => q.context_eq_none_iff.mp none (errors ▸ slot))
    have plainP : '%' ∉ c := fun held => plain ((p.context_isInfix found).1.subset held)
    have plainQ : '%' ∉ c' := fun held => plain' ((q.context_isInfix found').1.subset held)
    have reported := p.isSuppressed_eq_false (by simp [slot])
    have reported' := q.isSuppressed_eq_false (by simp [← errors, slot])
    obtain ⟨contexts, between⟩ :=
      Record.context_eq_of_twice reported reported' p.noColon q.noColon found found'
        (Record.context_append_eq rfl rfl kind rest slot found found' plainP plainQ)
    obtain ⟨file, position⟩ := p.file_eq_of_append q between
    obtain ⟨lineNumber, column, -⟩ := Record.positions_eq reported reported'
      (congrArg (· ++ []) position)
    have context : p.context = q.context := found.trans (contexts ▸ found'.symm)
    exact .of_parts kind file context (fun _ => ⟨lineNumber, column⟩) rest

end Line.CompileParts

/-! ## Every shape -/

/-- Records of one origin with one identity report one issue, at one place unless
the issue is a file that was not found. -/
theorem Record.issue_eq_of_identity_eq {line line' : Text} {r r' : Record} (plain : '%' ∉ line)
    (plain' : '%' ∉ line') (read : classify line = .ok r) (read' : classify line' = .ok r')
    (origin : r.origin = r'.origin) (same : r.identity = r'.identity) :
    r.kind = r'.kind ∧ r.message = r'.message ∧ r.file = r'.file ∧ r.context = r'.context ∧
      (r.kind ≠ .compile .fileNotFound → r.line = r'.line ∧ r.column = r'.column) := by
  have issue : SameIssue r r' := by
    rcases parts_of_classify read with ⟨from_, p, rfl⟩ | ⟨from_, p, rfl⟩ | ⟨from_, p, rfl⟩ <;>
      rcases parts_of_classify read' with ⟨from', q, rfl⟩ | ⟨from', q, rfl⟩ | ⟨from', q, rfl⟩
    case inl.inl => exact p.sameIssue q plain plain' same
    case inr.inl.inr.inl => exact p.sameIssue q plain plain' same
    case inr.inr.inr.inr => exact p.sameIssue q plain plain' same
    all_goals
      rw [from_, from'] at origin
      cases origin
  refine ⟨issue.kind, issue.message, issue.file, issue.context, fun found => issue.position ?_⟩
  simpa [isSuppressed, Kind.isSuppressed] using found

/-- Two wordings of one import error, whose context holds the separator. -/
theorem Record.issue_eq_of_identity_eq_import :
    ∃ r r' : Record,
      classify "a.proto:3:7: Import \"x::3.proto\" was not found or had errors." = .ok r ∧
      classify "a.proto :3:7: \"x::3.proto\" WAS not found or had errors" = .ok r' ∧
      r.raw ≠ r'.raw ∧ r.message = r'.message ∧ r.context = r'.context ∧
      r.line = r'.line ∧ r.column = r'.column := by
  have read : classify "a.proto:3:7: Import \"x::3.proto\" was not found or had errors." =
      .ok (.make (.compile .importUnresolved) .compiler
        "a.proto:3:7: Import \"x::3.proto\" was not found or had errors." "a.proto" 3 7
        (some "x::3.proto")) := by
    rfl
  have read' : classify "a.proto :3:7: \"x::3.proto\" WAS not found or had errors" =
      .ok (.make (.compile .importUnresolved) .compiler
        "a.proto :3:7: \"x::3.proto\" WAS not found or had errors" "a.proto" 3 7
        (some "x::3.proto")) := by
    rfl
  obtain ⟨-, message, -, context, position⟩ :=
    issue_eq_of_identity_eq (by decide) (by decide) read read' (.refl Origin.compiler)
      (by decide +kernel)
  exact ⟨_, _, read, read', by decide, message, context, position (by decide)⟩

end SchemaLint
