import SchemaLint.Text.Lines
import SchemaLint.Proofs.Text.Decoding

/-!
# Lines and pieces

A sequence is taken apart at its line feeds in one way (`Pieces`), and its lines are the
pieces that a line feed ended, each without one return at its end, and what is left if
there is something (`Pieces.cutLines_eq`). Line feed and return are ASCII, so reading
octets keeps the pieces apart (`Pieces.decoded`): the lines of the text that is read are
the lines of the octets, each read by itself (`Pieces.lines_decodeLossy`).
-/

namespace SchemaLint.Text

/-- A sequence taken apart at its line feeds. -/
structure Pieces {α : Type} (feed : α) (xs : List α) where
  /-- The pieces that a line feed ended. -/
  ended : List (List α)
  /-- What follows the last line feed. -/
  rest : List α
  endedFree : ∀ piece ∈ ended, feed ∉ piece
  restFree : feed ∉ rest
  whole : xs = ended.flatMap (· ++ [feed]) ++ rest

section

variable {α : Type} {feed mark : α} {xs ys : List α}

namespace Pieces

/-- A sequence without a line feed is all rest. -/
def single (rest : List α) (free : feed ∉ rest) : Pieces feed rest :=
  ⟨[], rest, nofun, free, rfl⟩

/-- A line feed ends what was left before it. -/
def append (p : Pieces feed xs) (q : Pieces feed ys) : Pieces feed (xs ++ feed :: ys) where
  ended := p.ended ++ p.rest :: q.ended
  rest := q.rest
  endedFree := List.forall_mem_append.mpr
    ⟨p.endedFree, List.forall_mem_cons.mpr ⟨p.restFree, q.endedFree⟩⟩
  restFree := q.restFree
  whole := by
    conv => lhs; rw [p.whole, q.whole]
    simp

end Pieces

variable [DecidableEq α]

/-- Every sequence has its pieces. -/
theorem exists_pieces (feed : α) (xs : List α) : Nonempty (Pieces feed xs) := by
  induction xs with
  | nil => exact ⟨.single [] List.not_mem_nil⟩
  | cons x xs ih =>
    obtain ⟨p⟩ := ih
    by_cases same : x = feed
    · subst same
      exact ⟨(Pieces.single [] List.not_mem_nil).append p⟩
    -- Another element belongs to the first piece, which is the rest if no line feed came.
    · obtain ⟨ended, rest, endedFree, restFree, rfl⟩ := p
      cases ended with
      | nil => exact ⟨.single (x :: rest) (by simp [restFree, Ne.symm same])⟩
      | cons first ended =>
        obtain ⟨firstFree, endedFree⟩ := List.forall_mem_cons.mp endedFree
        exact ⟨(x :: first) :: ended, rest,
          List.forall_mem_cons.mpr ⟨by simp [firstFree, Ne.symm same], endedFree⟩, restFree, rfl⟩

theorem splitOnP_ended {ended : List (List α)} (free : ∀ piece ∈ ended, feed ∉ piece)
    (ys : List α) :
    (ended.flatMap (· ++ [feed]) ++ ys).splitOnP (· == feed) =
      ended ++ ys.splitOnP (· == feed) := by
  induction ended with
  | nil => rfl
  | cons piece ended ih =>
    obtain ⟨first, others⟩ := List.forall_mem_cons.mp free
    have plain : ∀ x ∈ piece, (x == feed) = false := by
      intro x held
      rw [beq_eq_false_iff_ne]
      rintro rfl
      exact first held
    rw [List.flatMap_cons, List.append_assoc, List.append_assoc, List.singleton_append,
      List.splitOnP_append_cons_of_forall_mem plain feed (beq_self_eq_true feed), ih others]
    rfl

/-- The lines of a sequence, by its pieces. -/
theorem Pieces.cutLines_eq (p : Pieces feed xs) (mark : α) :
    cutLines feed mark xs =
      p.ended.map (dropReturn mark) ++ if p.rest = [] then [] else [p.rest] := by
  have single : p.rest.splitOnP (· == feed) = [p.rest] := by
    apply List.splitOnP_eq_singleton
    intro x held
    rw [beq_eq_false_iff_ne]
    rintro rfl
    exact p.restFree held
  have pieces : xs.splitOnP (· == feed) = p.ended ++ [p.rest] := by
    conv => lhs; rw [p.whole, splitOnP_ended p.endedFree, single]
  rw [cutLines, pieces, List.dropLast_concat, List.getLast?_concat]
  congr 1
  by_cases empty : p.rest = []
  · rw [if_pos empty, empty]
    rfl
  · rw [if_neg empty]
    exact List.filter_cons_of_pos (by simpa using empty)

end

/-! ## Lines of a text that is read -/

namespace Utf8

variable {bytes : List UInt8}

theorem decodeLossy_eq_nil_iff : decodeLossy bytes = [] ↔ bytes = [] := by
  refine ⟨fun empty => Decodes.eq_nil (decodeLossy_eq_iff.mp empty), ?_⟩
  rintro rfl
  rfl

theorem not_mem_decodeLossy (free : (0x0A : UInt8) ∉ bytes) : '\n' ∉ decodeLossy bytes :=
  fun held => free (Decodes.mem (c := '\n') (by decide) (decodes_decodeLossy bytes) held)

theorem decodeLossy_ended (ended : List (List UInt8)) (rest : List UInt8) :
    decodeLossy (ended.flatMap (· ++ [0x0A]) ++ rest) =
      (ended.map decodeLossy).flatMap (· ++ ['\n']) ++ decodeLossy rest := by
  induction ended with
  | nil => rfl
  | cons piece ended ih =>
    have read := decodeLossy_append_cons (c := '\n') (by decide) piece
      (ended.flatMap (· ++ [0x0A]) ++ rest)
    rw [List.flatMap_cons, List.map_cons, List.flatMap_cons, List.append_assoc, List.append_assoc,
      List.append_assoc, List.append_assoc, ← ih]
    exact read

/-- A return at the end is one before reading as after it. -/
theorem decodeLossy_dropReturn (piece : List UInt8) :
    decodeLossy (dropReturn 0x0D piece) = dropReturn '\r' (decodeLossy piece) := by
  by_cases ends : piece.getLast? = some 0x0D
  · obtain ⟨init, rfl⟩ := List.getLast?_eq_some_iff.mp ends
    have read : decodeLossy (init ++ [0x0D]) = decodeLossy init ++ ['\r'] :=
      decodeLossy_append_cons (c := '\r') (by decide) init []
    rw [read, dropReturn, dropReturn, if_pos List.getLast?_concat, if_pos List.getLast?_concat,
      List.dropLast_concat, List.dropLast_concat]
  · have other : (decodeLossy piece).getLast? ≠ some '\r' := fun last =>
      ends (Decodes.getLast? (c := '\r') (by decide) (decodes_decodeLossy piece) last)
    rw [dropReturn, dropReturn, if_neg ends, if_neg other]

end Utf8

open Utf8

namespace Pieces

variable {bytes : List UInt8}

/-- The pieces of octets that are read, each by itself. -/
def decoded (p : Pieces (0x0A : UInt8) bytes) : Pieces '\n' (decodeLossy bytes) where
  ended := p.ended.map decodeLossy
  rest := decodeLossy p.rest
  endedFree := List.forall_mem_map.mpr fun piece held =>
    not_mem_decodeLossy (p.endedFree piece held)
  restFree := not_mem_decodeLossy p.restFree
  whole := (congrArg decodeLossy p.whole).trans (decodeLossy_ended p.ended p.rest)

/-- The lines of octets: the pieces that a line feed ended, without one return at the end,
and what is left if there is something, each read by itself. -/
def texts (p : Pieces (0x0A : UInt8) bytes) : List Text :=
  p.ended.map (fun piece => decodeLossy (dropReturn 0x0D piece)) ++
    if p.rest = [] then [] else [decodeLossy p.rest]

theorem texts_append {before after : List UInt8} (p : Pieces (0x0A : UInt8) before)
    (q : Pieces (0x0A : UInt8) after) :
    (p.append q).texts = (p.append (single [] List.not_mem_nil)).texts ++ q.texts := by
  let read (piece : List UInt8) : Text := decodeLossy (dropReturn 0x0D piece)
  have ended :
      (p.append (single [] List.not_mem_nil)).texts = p.ended.map read ++ [read p.rest] := by
    show (p.ended ++ [p.rest]).map read ++ [] = _
    rw [List.append_nil, List.map_append]
    rfl
  have whole : (p.ended ++ p.rest :: q.ended).map read =
      p.ended.map read ++ [read p.rest] ++ q.ended.map read := by
    rw [List.map_append, List.append_assoc]
    rfl
  rw [ended, texts, texts, ← List.append_assoc, ← whole]
  rfl

theorem lines_decodeLossy (p : Pieces (0x0A : UInt8) bytes) :
    lines (decodeLossy bytes) = p.texts := by
  have ended : p.decoded.ended = p.ended.map decodeLossy := rfl
  have rest : p.decoded.rest = decodeLossy p.rest := rfl
  rw [lines, p.decoded.cutLines_eq, ended, rest, List.map_map, texts]
  simp only [decodeLossy_eq_nil_iff, decodeLossy_dropReturn]
  rfl

end Pieces

end SchemaLint.Text
