import SchemaLint.Text.Basic

/-!
Lines. A line ends at a line feed, which does not belong to it; a carriage
return just before that line feed does not either. What follows the last line
feed is a line only if it is not empty, and keeps a carriage return at its end.

The cut is the same for characters and for octets, so it takes the two marks as
arguments.
-/

namespace SchemaLint.Text

section

variable {α : Type} [DecidableEq α]

/-- A piece that a line feed ended, without one `mark` at its end. -/
def dropReturn (mark : α) (piece : List α) : List α :=
  if piece.getLast? = some mark then piece.dropLast else piece

/-- The lines of a sequence in which `feed` ends a line and `mark` may stand
before it. -/
def cutLines (feed mark : α) (xs : List α) : List (List α) :=
  let pieces := xs.splitOnP (· == feed)
  pieces.dropLast.map (dropReturn mark) ++ (pieces.getLast?.toList.filter fun last => !last.isEmpty)

end

/-- The lines of a text. -/
def lines (t : Text) : List Text := cutLines '\n' '\r' t

end SchemaLint.Text
