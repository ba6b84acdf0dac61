import SchemaLint.Compiler.Output
import SchemaLint.Proofs.Text.Lines

/-!
# The lines of the two streams

The output of a tool has a line for each piece of its octets that a line feed ended, and
for what is left at the end of a stream, whatever the octets are: no line is joined with
another one, of the same stream or of the other, and none is lost (`lines_ofProcess`).
-/

namespace SchemaLint.ToolOutput

open Text Text.Utf8

theorem streamLines_eq {bytes : List UInt8} (p : Pieces (0x0A : UInt8) bytes) :
    streamLines bytes = p.texts := p.lines_decodeLossy

/-- What comes before a line feed has no part in the lines after it. -/
theorem streamLines_append_cons (before after : List UInt8) :
    streamLines (before ++ 0x0A :: after) =
      streamLines (before ++ [0x0A]) ++ streamLines after := by
  obtain ⟨p⟩ := exists_pieces (0x0A : UInt8) before
  obtain ⟨q⟩ := exists_pieces (0x0A : UInt8) after
  rw [streamLines_eq (p.append q), streamLines_eq (p.append (.single [] List.not_mem_nil)),
    streamLines_eq q, Pieces.texts_append]

/-- Printed lines are captured as they were. -/
theorem streamLines_printed {printed : List Text}
    (lines : ∀ line ∈ printed, '\n' ∉ line ∧ line.getLast? ≠ some '\r') :
    streamLines (utf8 (printed.flatMap (· ++ ['\n']))) = printed := by
  let pieces : Pieces '\n' (printed.flatMap (· ++ ['\n'])) :=
    ⟨printed, [], fun line held => (lines line held).1, List.not_mem_nil, by rw [List.append_nil]⟩
  have kept : printed.map (dropReturn '\r') = printed :=
    (List.map_congr_left fun line held => if_neg (lines line held).2).trans (List.map_id printed)
  rw [streamLines, decodeLossy_utf8, Text.lines, pieces.cutLines_eq]
  show printed.map (dropReturn '\r') ++ [] = printed
  rw [kept, List.append_nil]

/-- The octets of each stream have pieces, and the output has the lines of those of
standard output and then those of standard error, each piece read by itself. A reading
puts one replacement character for each ill-formed part and changes nothing else. So a
line feed ends a line whatever comes before it, also a character that breaks off, and
lines that are printed with a line feed each are captured as they were. -/
theorem lines_ofProcess :
    (∀ bytes : List UInt8, Nonempty (Pieces (0x0A : UInt8) bytes)) ∧
    (∀ (p : FinishedProcess) (out : Pieces (0x0A : UInt8) p.stdout)
      (err : Pieces (0x0A : UInt8) p.stderr), (ofProcess p).lines = out.texts ++ err.texts) ∧
    (∀ (bytes : List UInt8) (t : Text), decodeLossy bytes = t ↔ Decodes bytes t) ∧
    (∀ before after : List UInt8, streamLines (before ++ 0x0A :: after) =
      streamLines (before ++ [0x0A]) ++ streamLines after) ∧
    ∀ (status : WaitStatus) (outs errs : List Text),
      (∀ line ∈ outs ++ errs, '\n' ∉ line ∧ line.getLast? ≠ some '\r') →
      (ofProcess ⟨status, utf8 (outs.flatMap (· ++ ['\n'])),
        utf8 (errs.flatMap (· ++ ['\n']))⟩).lines = outs ++ errs := by
  refine ⟨exists_pieces _, ?_, fun bytes t => decodeLossy_eq_iff, streamLines_append_cons, ?_⟩
  · intro p out err
    rw [ofProcess, streamLines_eq out, streamLines_eq err]
  · intro status outs errs lines
    obtain ⟨outLines, errLines⟩ := List.forall_mem_append.mp lines
    rw [ofProcess, streamLines_printed outLines, streamLines_printed errLines]

/-- A character that breaks off before a line feed, two returns before another, and an
octet that begins none where the stream ends; and printed lines of which one is empty and
one begins with a return. -/
theorem lines_ofProcess_broken :
    (ofProcess ⟨.ofCode 1, [0xE2, 0x82, 0x0A, 0x61, 0x0D, 0x0D, 0x0A, 0xFF], [0x62]⟩).lines =
      [[replacement], ['a', '\r'], [replacement], ['b']] ∧
    (∀ line ∈ ([['\u00e9'], []] : List Text) ++ [['\r', 'x']],
      '\n' ∉ line ∧ line.getLast? ≠ some '\r') ∧
    (ofProcess ⟨.ofCode 1, [0xC3, 0xA9, 0x0A, 0x0A], [0x0D, 0x78, 0x0A]⟩).lines =
      [['\u00e9'], [], ['\r', 'x']] := by
  obtain ⟨-, captured, -, -, printed⟩ := lines_ofProcess
  have lines : ∀ line ∈ ([['\u00e9'], []] : List Text) ++ [['\r', 'x']],
      '\n' ∉ line ∧ line.getLast? ≠ some '\r' := by
    decide
  refine ⟨?_, lines, printed (.ofCode 1) [['\u00e9'], []] [['\r', 'x']] lines⟩
  exact captured ⟨.ofCode 1, [0xE2, 0x82, 0x0A, 0x61, 0x0D, 0x0D, 0x0A, 0xFF], [0x62]⟩
    ⟨[[0xE2, 0x82], [0x61, 0x0D, 0x0D]], [0xFF], by decide, by decide, rfl⟩
    (.single [0x62] (by decide))

end SchemaLint.ToolOutput
