/-!
Texts as lists of characters, and the searches on them that reading a
diagnostic line needs: finding a marker, cutting at a delimiter, replacing
every occurrence, dropping characters from both ends.

A text is held as the list of its characters, so each operation is a list
function and each law a list law. `contains_iff` ties the search to the
sublist relation, and `cut?_eq_some` says that a cut loses nothing.
-/

namespace SchemaLint

/-- A text is the list of its characters. -/
abbrev Text := List Char

instance : Coe String Text := ⟨String.toList⟩

namespace Text

/-! ## Searching -/

/-- Whether `needle` occurs in the text as a run of consecutive characters. -/
def contains (needle : Text) : Text → Bool
  | [] => needle.isEmpty
  | c :: cs => needle.isPrefixOf (c :: cs) || contains needle cs

/-- Whether the text begins with `start`. -/
def beginsWith (start t : Text) : Bool := start.isPrefixOf t

/-- Whether the text ends with `ending`. -/
def endsWith (ending t : Text) : Bool := ending.isSuffixOf t

/-- The text around the first occurrence of `delimiter`, which belongs to
neither part; `none` when it does not occur. -/
def cut? (delimiter : Text) : Text → Option (Text × Text)
  | [] => if delimiter.isEmpty then some ([], []) else none
  | c :: cs =>
    if delimiter.isPrefixOf (c :: cs) then
      some ([], (c :: cs).drop delimiter.length)
    else
      (cut? delimiter cs).map fun parts => (c :: parts.1, parts.2)

/-- The two parts of a text that the delimiter divides exactly once. -/
def halves? (delimiter t : Text) : Option (Text × Text) :=
  match cut? delimiter t with
  | some (left, right) => if contains delimiter right then none else some (left, right)
  | none => none

/-- The characters before the first `mark`, all of them when there is none. -/
def before (mark : Char) (t : Text) : Text := t.takeWhile (· != mark)

/-- The characters after the first `mark`, or `none` when there is none. -/
def after? (mark : Char) (t : Text) : Option Text :=
  match t.dropWhile (· != mark) with
  | [] => none
  | _ :: rest => some rest

/-! ## Replacing and trimming -/

/-- Replaces from left to right, after `skip` characters that belong to an
occurrence already replaced. -/
def replaceFrom (old new : Text) : Nat → Text → Text
  | _, [] => []
  | skip + 1, _ :: cs => replaceFrom old new skip cs
  | 0, c :: cs =>
    if old.isPrefixOf (c :: cs) then new ++ replaceFrom old new (old.length - 1) cs
    else c :: replaceFrom old new 0 cs

/-- Every occurrence of `old`, taken from left to right without overlap,
becomes `new`; the inserted text is not searched again. An empty `old` changes
nothing. -/
def replaceAll (old new t : Text) : Text :=
  if old.isEmpty then t else replaceFrom old new 0 t

/-- The text without the longest run at its end that satisfies `p`. -/
def dropEndWhile (p : Char → Bool) (t : Text) : Text := (t.reverse.dropWhile p).reverse

/-- The text without the runs at both ends that satisfy `p`. -/
def trimBy (p : Char → Bool) (t : Text) : Text := dropEndWhile p (t.dropWhile p)

/-- The text without one occurrence of `ending` at its end, if it has one. -/
def dropEnding (ending t : Text) : Text :=
  if endsWith ending t then t.take (t.length - ending.length) else t

/-- The parts joined, with `separator` between neighbours. -/
def join (separator : Text) : List Text → Text
  | [] => []
  | [t] => t
  | t :: u :: rest => t ++ separator ++ join separator (u :: rest)

/-! ## Laws of the searches -/

theorem contains_iff {needle t : Text} : contains needle t = true ↔ needle <:+: t := by
  induction t with
  | nil => simp [contains]
  | cons c cs ih => simp [contains, ih, List.infix_cons_iff]

/-- The parts of a cut and the delimiter between them are the whole text. -/
theorem cut?_eq_some {delimiter t left right : Text}
    (h : cut? delimiter t = some (left, right)) : t = left ++ delimiter ++ right := by
  induction t generalizing left with
  | nil =>
    cases delimiter with
    | nil => simp [cut?] at h; simp [h]
    | cons d ds => simp [cut?] at h
  | cons c cs ih =>
    rw [cut?] at h
    split at h
    · next hp =>
      obtain ⟨rest, hrest⟩ := List.isPrefixOf_iff_prefix.1 hp
      simp only [Option.some.injEq, Prod.mk.injEq] at h
      obtain ⟨rfl, rfl⟩ := h
      rw [← hrest]
      simp
    · obtain ⟨⟨l, r⟩, hcut, hparts⟩ := Option.map_eq_some_iff.1 h
      simp only [Prod.mk.injEq] at hparts
      obtain ⟨rfl, rfl⟩ := hparts
      simp [ih hcut]

/-- A text can be cut exactly where the delimiter occurs in it. -/
theorem isSome_cut? (delimiter t : Text) : (cut? delimiter t).isSome = contains delimiter t := by
  induction t with
  | nil => cases delimiter <;> simp [cut?, contains]
  | cons c cs ih =>
    rw [cut?, contains]
    split
    · next h => simp [h]
    · next h => simp [h, ih]

end Text

end SchemaLint
