import SchemaLint.Pattern.Basic

/-!
Finding the leftmost match of a pattern in a text. For a pattern and a position
the matcher gives the list of all positions where a match can end, without
repetitions, so its work is bounded by the number of positions and not by the
number of ways to match. The leftmost match starts at the first position for
which there is one.
-/

namespace SchemaLint.Pattern

/-- The members of a list, each once. -/
def distinct (xs : List Nat) : List Nat := xs.eraseDups

/-- Applies `next` to a set of positions `count` times, or until it changes
nothing. -/
def stepTimes (next : List Nat → List Nat) : Nat → List Nat → List Nat
  | 0, at_ => at_
  | count + 1, at_ => if next at_ = at_ then at_ else stepTimes next count (next at_)

/-- The positions reached in at most `count` applications of `next`. -/
def reach (next : List Nat → List Nat) : Nat → List Nat → List Nat
  | 0, seen => seen
  | count + 1, seen =>
    let more := distinct (seen ++ next seen)
    if more.length = seen.length then seen else reach next count more

/-- The positions where a match that starts at a given position can end. -/
def ends (t : Text) : Pattern → Nat → List Nat
  | .empty, i => [i]
  | .one set, i => if t[i]?.any set.has then [i + 1] else []
  | .assert condition, i => if condition.holds (charBefore t i) t[i]? then [i] else []
  | .seq p q, i => distinct ((ends t p i).flatMap fun j => ends t q j)
  | .alt p q, i => distinct (ends t p i ++ ends t q i)
  | .loop p least most, i =>
    let next (at_ : List Nat) : List Nat := distinct (at_.flatMap fun j => ends t p j)
    let first := stepTimes next least [i]
    match most with
    | some most => reach next (most - least) first
    | none => reach next (t.length + 1) first

/-- Where the leftmost match starts, if there is a match. -/
def leftmost? (p : Pattern) (t : Text) : Option Nat :=
  (List.range (t.length + 1)).find? fun i => !(ends t p i).isEmpty

end SchemaLint.Pattern
