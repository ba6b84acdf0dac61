import SchemaLint.Proofs.Record.Identity
import SchemaLint.Proofs.Text.Replace

/-!
# Records that differ in their wording

A tool may print one issue in several wordings: two lines give records of one kind,
file, position and context, and only the raw lines differ. The raw line is the last
value that goes into a message, so up to it both messages have one draft
(`Record.draft_eq`). No template names the raw line, but the draft holds the values
that were filled in before, and these may hold anything. So the records have one
message, and with it one identity, unless a value has written the placeholder of the
raw line into the draft (`Record.message_eq_iff_of_wording`); a value without percent
signs cannot, and a file named after the placeholder does
(`Record.message_ne_of_wording`).
-/

namespace SchemaLint

open Text Line

/-- Filling in depends on the values of the placeholders alone. -/
theorem fill_congr {v w : TemplateValues} {ps : List Placeholder}
    (same : ∀ p ∈ ps, p.value v = p.value w) (t : Text) : fill v ps t = fill w ps t := by
  induction ps generalizing t with
  | nil => rfl
  | cons p ps ih =>
    obtain ⟨first, rest⟩ := List.forall_mem_cons.mp same
    rw [fill, fill, List.foldl_cons, List.foldl_cons, first]
    exact ih rest _

namespace Record

/-- The placeholders that are filled in before the raw line. -/
def draftPlaceholders : List Placeholder := [.file, .line, .column, .context, .type]

/-- The message of a record before the raw line is filled in. -/
def draft (r : Record) : Text := fill r.values draftPlaceholders r.kind.profile.template

variable {r r' : Record}

theorem message_eq_replaceAll (made : r.message = render r.kind.profile.template r.values) :
    r.message = replaceAll Placeholder.raw.text r.raw r.draft := by
  have order : Placeholder.all = draftPlaceholders ++ [.raw] := rfl
  rw [made, render_eq_fill, fill, order, List.foldl_append]
  rfl

/-- Two records of one issue, in whatever wording each. -/
structure SameReport (r r' : Record) : Prop where
  kind : r.kind = r'.kind
  file : r.file = r'.file
  line : r.line = r'.line
  column : r.column = r'.column
  context : r.context = r'.context

theorem SameReport.value_eq (same : SameReport r r') {p : Placeholder} (notRaw : p ≠ .raw) :
    p.value r.values = p.value r'.values := by
  cases p with
  | file => exact same.file
  | line => exact congrArg numeral same.line
  | column => exact congrArg numeral same.column
  | context => exact congrArg (·.getD []) same.context
  | type => exact congrArg Kind.name same.kind
  | raw => exact (notRaw rfl).elim

/-- The wording has no part in the draft. -/
theorem SameReport.draft_eq (same : SameReport r r') : r.draft = r'.draft := by
  rw [draft, draft, same.kind]
  refine fill_congr (fun p held => same.value_eq ?_) _
  rintro rfl
  exact absurd held (by decide)

/-- The messages agree exactly if the lines do or the draft leaves no place for them. -/
theorem SameReport.message_eq_iff (same : SameReport r r')
    (made : r.message = render r.kind.profile.template r.values)
    (made' : r'.message = render r'.kind.profile.template r'.values) :
    r.message = r'.message ↔ r.raw = r'.raw ∨ ¬ Placeholder.raw.text <:+: r.draft := by
  rw [message_eq_replaceAll made, message_eq_replaceAll made', ← same.draft_eq]
  exact replaceAll_eq_iff (by decide)

/-- Of what makes an identity, only the message may depend on the wording. -/
theorem SameReport.identity_eq_iff (same : SameReport r r') :
    r.identity = r'.identity ↔ r.message = r'.message := by
  constructor
  · intro identity
    exact (SameIssue.of_parts same.kind same.file same.context
      (fun _ => ⟨same.line, same.column⟩) (kind_eq_of_identity identity).2).message
  · intro message
    have suppressed : r.isSuppressed = r'.isSuppressed := congrArg Kind.isSuppressed same.kind
    rw [identity, identity, identityParts, identityParts, suppressed, same.kind, same.file,
      same.line, same.column, same.context, message]

/-- A value without percent signs leaves no place for the lines. -/
theorem SameReport.message_eq (same : SameReport r r')
    (made : r.message = render r.kind.profile.template r.values)
    (made' : r'.message = render r'.kind.profile.template r'.values)
    (plain : ∀ p, r.kind.slot? = some p → '%' ∉ p.value r.values) : r.message = r'.message := by
  cases slot : r.kind.slot? with
  | none =>
    rw [message_eq_template made slot, message_eq_template made' (same.kind ▸ slot), same.kind]
  | some p =>
    have value := same.value_eq (Kind.ne_raw_of_slot slot)
    have plain' : '%' ∉ p.value r'.values := value ▸ plain p slot
    rw [message_eq_around made slot (plain p slot), message_eq_around made' (same.kind ▸ slot) plain',
      value, same.kind]

end Record

theorem Line.made_of_classify {line : Text} {r : Record} (read : classify line = .ok r) :
    r.raw = line ∧ r.message = render r.kind.profile.template r.values := by
  rcases parts_of_classify read with ⟨-, p, rfl⟩ | ⟨-, p, rfl⟩ | ⟨-, p, rfl⟩
  · exact ⟨rfl, rfl⟩
  · exact ⟨rfl, rfl⟩
  · exact ⟨rfl, rfl⟩

/-- Where two lines are classified alike, the messages agree exactly if the lines do or
the draft holds no placeholder of the raw line, and with the messages the identities
and the fingerprints. They agree in any case if the value that the template names holds
no percent sign. -/
theorem Record.message_eq_iff_of_wording {line line' : Text} {r r' : Record}
    (read : classify line = .ok r) (read' : classify line' = .ok r') (kind : r.kind = r'.kind)
    (file : r.file = r'.file) (number : r.line = r'.line) (column : r.column = r'.column)
    (context : r.context = r'.context) :
    (r.message = r'.message ↔ line = line' ∨ ¬ Placeholder.raw.text <:+: r.draft) ∧
      (r.identity = r'.identity ↔ r.message = r'.message) ∧
      (r.message = r'.message → r.fingerprint = r'.fingerprint) ∧
      ((∀ p, r.kind.slot? = some p → '%' ∉ p.value r.values) → r.message = r'.message) := by
  have same : SameReport r r' := ⟨kind, file, number, column, context⟩
  obtain ⟨raw, made⟩ := made_of_classify read
  obtain ⟨raw', made'⟩ := made_of_classify read'
  refine ⟨?_, same.identity_eq_iff, fun message => ?_, same.message_eq made made'⟩
  · rw [same.message_eq_iff made made', raw, raw']
  · rw [fingerprint, fingerprint, same.identity_eq_iff.mpr message]

/-- A missing syntax declaration that the plugin reports with one context. -/
def Record.missingSyntax (raw file : Text) : Record :=
  .make (.style .syntaxUnspecified) .plugin raw file 1 1 (some ['x'])

theorem Record.sameReport_missingSyntax (raw raw' file : Text) :
    SameReport (missingSyntax raw file) (missingSyntax raw' file) := ⟨rfl, rfl, rfl, rfl, rfl⟩

/-- Two wordings of a missing syntax declaration have one fingerprint. -/
theorem Record.fingerprint_eq_of_wording :
    ∃ r r' : Record,
      classify "a.proto:1:1: 'x' - No syntax specified." = .ok r ∧
      classify "a.proto:1:1:  'x' - no syntax specified" = .ok r' ∧
      r.raw ≠ r'.raw ∧ r.message = r'.message ∧ r.fingerprint = r'.fingerprint := by
  have read : classify "a.proto:1:1: 'x' - No syntax specified." =
      .ok (missingSyntax "a.proto:1:1: 'x' - No syntax specified." "a.proto") := by
    rfl
  have read' : classify "a.proto:1:1:  'x' - no syntax specified" =
      .ok (missingSyntax "a.proto:1:1:  'x' - no syntax specified" "a.proto") := by
    rfl
  obtain ⟨kind, file, number, column, context⟩ := sameReport_missingSyntax
    "a.proto:1:1: 'x' - No syntax specified." "a.proto:1:1:  'x' - no syntax specified" "a.proto"
  obtain ⟨-, -, fingerprint, plain⟩ :=
    message_eq_iff_of_wording read read' kind file number column context
  have message := plain fun p slot => by
    cases slot
    decide
  exact ⟨_, _, read, read', by decide, message, fingerprint message⟩

/-- Of a file that is named after the placeholder of the raw line, the two wordings have
different messages, and different identities. -/
theorem Record.message_ne_of_wording :
    ∃ r r' : Record,
      classify "%raw%.proto:1:1: 'x' - No syntax specified." = .ok r ∧
      classify "%raw%.proto:1:1: 'x' - no syntax specified" = .ok r' ∧
      r.kind = r'.kind ∧ r.file = r'.file ∧ r.line = r'.line ∧ r.column = r'.column ∧
      r.context = r'.context ∧ r.message ≠ r'.message ∧ r.identity ≠ r'.identity := by
  have same := sameReport_missingSyntax "%raw%.proto:1:1: 'x' - No syntax specified."
    "%raw%.proto:1:1: 'x' - no syntax specified" "%raw%.proto"
  have differ : (missingSyntax "%raw%.proto:1:1: 'x' - No syntax specified." "%raw%.proto").message ≠
      (missingSyntax "%raw%.proto:1:1: 'x' - no syntax specified" "%raw%.proto").message := by
    decide
  exact ⟨_, _, by rfl, by rfl, same.kind, same.file, same.line, same.column, same.context, differ,
    mt same.identity_eq_iff.mp differ⟩

end SchemaLint
