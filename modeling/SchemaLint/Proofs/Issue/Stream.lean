import SchemaLint.Issue.Stream
import SchemaLint.Proofs.Issue.Document

/-!
# The stream of issues

A writer whose output has no limit takes every issue, and its output is the stream
of the issues it was given (`IssueWriter.emit_having`). A null character stands in a
stream only at the end of a document and in front of a line feed, so the stream
falls into its documents where both stand (`Issue.chunks_stream`), and each of them
gives its issue back.
-/

namespace SchemaLint

namespace Issue

/-- A document with its terminator. -/
def framed (i : Issue) : List UInt8 := i.document ++ terminator

/-- The documents of issues with their terminators, one after the other. -/
def stream (issues : List Issue) : List UInt8 := issues.flatMap framed

/-- What a stream holds before, between and after the places where a null character
and a line feed stand. -/
def chunks : List UInt8 → List (List UInt8)
  | [] => [[]]
  | 0 :: 10 :: rest => [] :: chunks rest
  | b :: rest =>
    match chunks rest with
    | [] => [[b]]
    | chunk :: others => (b :: chunk) :: others

/-- Each null character has a line feed behind it. -/
def Terminated (bytes : List UInt8) : Prop :=
  ∀ before after, bytes = before ++ 0 :: after → ∃ rest, after = 10 :: rest

theorem Terminated.nil : Terminated [] := by
  intro before after split
  cases before <;> cases split

theorem Terminated.append {document rest : List UInt8} (absent : 0 ∉ document)
    (terminated : Terminated rest) : Terminated (document ++ rest) := by
  induction document with
  | nil => exact terminated
  | cons b document ih =>
    obtain ⟨other, absent⟩ := not_or.mp (mt List.mem_cons.mpr absent)
    intro before after split
    cases before with
    | nil =>
      rw [List.nil_append, List.cons_append] at split
      exact (other (List.head_eq_of_cons_eq split).symm).elim
    | cons _ before => exact ih absent before after (List.tail_eq_of_cons_eq split)

theorem Terminated.terminator {rest : List UInt8} (terminated : Terminated rest) :
    Terminated (terminator ++ rest) := by
  intro before after split
  cases before with
  | nil => exact ⟨rest, (List.tail_eq_of_cons_eq split).symm⟩
  | cons _ before =>
    cases before with
    | nil => cases split
    | cons _ before =>
      exact terminated before after (List.tail_eq_of_cons_eq (List.tail_eq_of_cons_eq split))

/-- A document in front of a terminator is a chunk. -/
theorem chunks_append {document : List UInt8} (absent : 0 ∉ document) (rest : List UInt8) :
    chunks (document ++ (terminator ++ rest)) = document :: chunks rest := by
  induction document with
  | nil => rfl
  | cons b document ih =>
    obtain ⟨other, absent⟩ := not_or.mp (mt List.mem_cons.mpr absent)
    rw [List.cons_append, chunks, ih absent]
    exact fun _ same _ => other same.symm

variable {issues : List Issue}

theorem stream_cons (i : Issue) (issues : List Issue) :
    stream (i :: issues) = i.document ++ (terminator ++ stream issues) := by
  rw [stream, List.flatMap_cons, framed, List.append_assoc, stream]

/-- A stream falls into its documents. -/
theorem chunks_stream (fits : ∀ i ∈ issues, i.Fits) :
    chunks (stream issues) = issues.map document ++ [[]] := by
  induction issues with
  | nil => rfl
  | cons i issues ih =>
    obtain ⟨first, others⟩ := List.forall_mem_cons.mp fits
    rw [stream_cons, chunks_append (not_mem_document first (by decide)), ih others]
    rfl

theorem terminated_stream (fits : ∀ i ∈ issues, i.Fits) : Terminated (stream issues) := by
  induction issues with
  | nil => exact .nil
  | cons i issues ih =>
    obtain ⟨first, others⟩ := List.forall_mem_cons.mp fits
    rw [stream_cons]
    exact .append (not_mem_document first (by decide)) (.terminator (ih others))

/-- A control character stands in a stream only where a terminator has it. -/
theorem count_stream (fits : ∀ i ∈ issues, i.Fits) {b : UInt8} (control : b.toNat < 32)
    (once : terminator.count b = 1) : (stream issues).count b = issues.length := by
  induction issues with
  | nil => rfl
  | cons i issues ih =>
    obtain ⟨first, others⟩ := List.forall_mem_cons.mp fits
    have absent : i.document.count b = 0 := List.count_eq_zero.mpr (not_mem_document first control)
    rw [stream_cons, List.count_append, List.count_append, absent, once, ih others,
      List.length_cons]
    omega

end Issue

namespace IssueWriter

/-- A writer that wrote issues to an output without a limit. -/
def having (issues : List Issue) : IssueWriter where
  output := { bytes := Issue.stream issues }
  written := issues.length

/-- Such a writer takes every issue. -/
theorem emit_having (r : Record) (i : Issue) (issues : List Issue) :
    emit r i (having issues) = ⟨.ok (), having (issues ++ [i]), [.issued r]⟩ := by
  have bytes : Issue.stream (issues ++ [i]) = Issue.stream issues ++ i.document ++ Issue.terminator := by
    rw [Issue.stream, List.flatMap_append, List.flatMap_singleton, Issue.framed, List.append_assoc,
      Issue.stream]
  rw [having, having, bytes, List.length_append]
  rfl

/-- Gives issues to a writer one after the other. -/
def emitAll (w : IssueWriter) (calls : List (Record × Issue)) : IssueWriter :=
  calls.foldl (fun w call => (emit call.1 call.2 w).state) w

theorem emitAll_having (issues : List Issue) (calls : List (Record × Issue)) :
    emitAll (having issues) calls = having (issues ++ calls.map (·.2)) := by
  induction calls generalizing issues with
  | nil => rw [emitAll, List.foldl_nil, List.map_nil, List.append_nil]
  | cons call calls ih =>
    have rest := ih (issues ++ [call.2])
    rw [List.append_assoc, List.singleton_append] at rest
    rw [emitAll, List.foldl_cons, emit_having]
    exact rest

end IssueWriter

/-- The positions of an issue are those of its record. -/
theorem Record.fits_of_issue {r : Record} {d : Discovery} {i : Issue}
    (made : r.issue d = .ok (some i)) (line : r.line ≤ Text.maxWord64)
    (column : r.column ≤ Text.maxWord64) : i.Fits := by
  unfold issue at made
  split at made
  · cases made
  · split at made
    · cases made
    · cases made
      exact ⟨⟨line, column⟩, line, column⟩

/-- What a writer makes of issues can be cut and decoded. There is one null character
and one line feed for each issue, and no null character without a line feed behind
it. Where both stand the stream is cut into documents, none of them empty, with
nothing after the last; they decode to the JSON objects of the issues, in order, and
each object gives its issue. The positions of a record have 32 bits, and 64 are
enough. -/
theorem IssueWriter.emitAll_decodes {calls : List (Record × Issue)}
    (made : ∀ call ∈ calls, (∃ d, call.1.issue d = .ok (some call.2)) ∧
      call.1.line ≤ Text.maxWord64 ∧ call.1.column ≤ Text.maxWord64) :
    let bytes := (emitAll {} calls).output.bytes
    bytes.count 0 = calls.length ∧ bytes.count 10 = calls.length ∧
      (∀ before after, bytes = before ++ 0 :: after → ∃ rest, after = 10 :: rest) ∧
      ∃ documents, Issue.chunks bytes = documents ++ [[]] ∧ [] ∉ documents ∧
        documents.map Issue.json? = calls.map (fun call => some call.2.toJson) ∧
        ∀ call ∈ calls, Issue.ofJson? call.2.toJson = some call.2 := by
  intro bytes
  have written : bytes = Issue.stream (calls.map (·.2)) :=
    congrArg (fun w => w.output.bytes) (emitAll_having [] calls)
  have fits : ∀ i ∈ calls.map (·.2), i.Fits := by
    intro i held
    obtain ⟨call, present, rfl⟩ := List.mem_map.mp held
    obtain ⟨⟨d, issue⟩, line, column⟩ := made call present
    exact Record.fits_of_issue issue line column
  have length : (calls.map (·.2)).length = calls.length := List.length_map _
  rw [written, ← length]
  refine ⟨Issue.count_stream fits (by decide) rfl, Issue.count_stream fits (by decide) rfl,
    Issue.terminated_stream fits, _, Issue.chunks_stream fits, ?_, ?_,
    fun call _ => Issue.ofJson?_toJson call.2⟩
  · intro held
    obtain ⟨i, present, empty⟩ := List.mem_map.mp held
    exact Issue.document_ne_nil (fits i present) empty
  · rw [List.map_map, List.map_map]
    exact List.map_congr_left fun call present =>
      Issue.json?_document (fits call.2 (List.mem_map_of_mem present))

/-- A name with a quote, a backslash, a null character and a line feed comes back as
it was. -/
theorem IssueWriter.emitAll_decodes_controls :
    let d : Discovery := ⟨⟨"/"⟩, [⟨"/"⟩], [⟨"/a.proto"⟩]⟩
    let r : Record := .make (.compile .unexpectedToken) .compiler [] "a.proto" 3 7
      (some ['"', '\\', '\x00', '\n'])
    ∃ i documents, r.issue d = .ok (some i) ∧ '\x00' ∈ i.description ∧ '\n' ∈ i.description ∧
      Issue.chunks (emitAll {} [(r, i)]).output.bytes = documents ++ [[]] ∧
      documents.map Issue.json? = [some i.toJson] ∧ Issue.ofJson? i.toJson = some i := by
  intro d r
  have known : d.find? r.file = some ⟨"/a.proto"⟩ := by decide
  obtain ⟨i, made, description⟩ :
      ∃ i, r.issue d = .ok (some i) ∧ i.description = r.message := by
    rw [Record.issue, if_neg (by decide), Discovery.location, known]
    exact ⟨_, rfl, rfl⟩
  have calls : ∀ call ∈ [(r, i)], (∃ d, call.1.issue d = .ok (some call.2)) ∧
      call.1.line ≤ Text.maxWord64 ∧ call.1.column ≤ Text.maxWord64 := by
    have line : 3 ≤ Text.maxWord64 := by decide
    have column : 7 ≤ Text.maxWord64 := by decide
    exact List.forall_mem_singleton.mpr ⟨⟨d, made⟩, line, column⟩
  obtain ⟨-, -, -, documents, cut, -, decoded, back⟩ := emitAll_decodes calls
  refine ⟨i, documents, made, ?_, ?_, cut, decoded, back _ List.mem_cons_self⟩
  · rw [description]
    decide
  · rw [description]
    decide

end SchemaLint
