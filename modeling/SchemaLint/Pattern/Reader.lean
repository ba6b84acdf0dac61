import SchemaLint.Pattern.Basic
import SchemaLint.Text.Numeral

/-!
Reading a pattern from its text. The text is read from left to right with a
stack of the groups and bracketed sets that are open. Nothing is looked at
twice, look-around and references back to a group are refused, and so are
repetitions of nothing, counts that end before they start, and whatever is left
open at the end.

Read piece by piece: escapes, counts, flags, group names and bracketed sets have
readers of their own, which give back the text after what they read. The main
loop passes over as many characters as were read.
-/

namespace SchemaLint.Pattern

/-! ## Escapes -/

/-- What an escape stands for. -/
inductive Escape where
  | literal (c : Char)
  | set (s : CharSet)
  | assertion (a : Assertion)
deriving Repr

/-- The characters that have a meaning of their own somewhere in patterns. -/
def metaChars : Text := "\\.+*?()|[]^$#&-~\x7b\x7d"

/-- Whether a backslash in front of a character gives the character itself: a
meta character, or an ASCII character that is neither a letter, a digit nor an
angle bracket. -/
def isEscapable (c : Char) : Bool :=
  metaChars.elem c || (c.toNat < 0x80 && !c.isAlphanum && c != '<' && c != '>')

/-- The character with the number that hexadecimal digits give. -/
def hexChar? (digits : Text) : Option Char := do
  let n ← Text.hexNumber? digits
  if n < 0xD800 || (0xDFFF < n && n < 0x110000) then return Char.ofNat n else none

/-- Reads the digits of a hexadecimal escape: `count` of them, or any number of
them in braces. -/
def readHex (count : Nat) (t : Text) : Option (Char × Text) :=
  match t with
  | '\x7b' :: rest => do
    let digits := rest.takeWhile (· != '\x7d')
    guard (!digits.isEmpty)
    let c ← hexChar? digits
    match rest.dropWhile (· != '\x7d') with
    | _ :: after => return (c, after)
    | [] => none
  | t => do
    guard (count ≤ t.length)
    let c ← hexChar? (t.take count)
    return (c, t.drop count)

/-- The names of the word boundaries that look at one direction. -/
def wordBoundaries : List (Text × Assertion) :=
  [("start", .wordStart), ("end", .wordEnd), ("start-half", .wordStartHalf),
   ("end-half", .wordEndHalf)]

/-- Whether a character may stand in the name of a word boundary. -/
def isBoundaryChar (c : Char) : Bool := c.isAlpha || c == '-'

/-- Reads what follows `\b`: a name in braces, or nothing. Braces around
something that does not start like a name are left for a repetition count. -/
def readWordEdge (t : Text) : Option (Assertion × Text) :=
  match t with
  | '\x7b' :: rest =>
    match rest with
    | [] => none
    | c :: _ =>
      if isBoundaryChar c then
        match rest.dropWhile isBoundaryChar with
        | '\x7d' :: after =>
          (wordBoundaries.find? (·.1 = rest.takeWhile isBoundaryChar)).map fun named =>
            (named.2, after)
        | _ => none
      else some (.wordEdge, t)
  | t => some (.wordEdge, t)

/-- The escapes by one letter that stand for one character. -/
def controlEscapes : List (Char × Char) :=
  [('a', '\x07'), ('f', '\x0c'), ('t', '\t'), ('n', '\n'), ('r', '\r'), ('v', '\x0b')]

/-- The escapes by one letter that stand for a set of characters. -/
def setEscapes : List (Char × CharSet) :=
  [('d', .digit), ('s', .space), ('w', .word), ('D', .complement .digit),
   ('S', .complement .space), ('W', .complement .word)]

/-- The escapes by one character that stand for an assertion. -/
def assertionEscapes : List (Char × Assertion) :=
  [('A', .textStart), ('z', .textEnd), ('B', .noWordEdge), ('<', .wordStart), ('>', .wordEnd)]

/-- Reads an escape after its backslash. -/
def readEscape : Text → Option (Escape × Text)
  | [] => none
  | 'x' :: rest => (readHex 2 rest).map fun r => (.literal r.1, r.2)
  | 'u' :: rest => (readHex 4 rest).map fun r => (.literal r.1, r.2)
  | 'U' :: rest => (readHex 8 rest).map fun r => (.literal r.1, r.2)
  | 'b' :: rest => (readWordEdge rest).map fun r => (.assertion r.1, r.2)
  | c :: rest =>
    if isEscapable c then some (.literal c, rest)
    else
      match controlEscapes.lookup c, setEscapes.lookup c, assertionEscapes.lookup c with
      | some d, _, _ => some (.literal d, rest)
      | _, some s, _ => some (.set s, rest)
      | _, _, some a => some (.assertion a, rest)
      | _, _, _ => none

/-! ## Counts -/

/-- Reads a number of at most 32 bits with blanks around it. -/
def readCount (t : Text) : Option (Nat × Text) := do
  let t := t.dropWhile Text.isBlankChar
  let digits := t.takeWhile Char.isDigit
  guard (!digits.isEmpty)
  let n := Text.digitsValue digits
  guard (n ≤ Text.maxWord32)
  return (n, (t.dropWhile Char.isDigit).dropWhile Text.isBlankChar)

/-- Reads the rest of a counted repetition after its opening brace. -/
def readBounds (t : Text) : Option ((Nat × Option Nat) × Text) := do
  let (least, t) ← readCount t
  match t with
  | '\x7d' :: rest => return ((least, some least), rest)
  | ',' :: '\x7d' :: rest => return ((least, none), rest)
  | ',' :: t =>
    let (most, t) ← readCount t
    guard (least ≤ most)
    match t with
    | '\x7d' :: rest => return ((least, some most), rest)
    | _ => none
  | _ => none

/-- Reads a repetition with the question mark that may follow it. Which of
several matches comes first does not matter here. -/
def readRepetition (t : Text) : Option ((Nat × Option Nat) × Text) := do
  let (bounds, t) ← match t with
    | '?' :: rest => some ((0, some 1), rest)
    | '*' :: rest => some ((0, none), rest)
    | '+' :: rest => some ((1, none), rest)
    | '\x7b' :: rest => readBounds rest
    | _ => none
  match t with
  | '?' :: rest => return (bounds, rest)
  | t => return (bounds, t)

/-! ## Flags and names -/

/-- The switches that change how the characters after them are read. -/
structure Flags where
  ignoreCase : Bool := false
  multiLine : Bool := false
  dotAll : Bool := false
deriving Repr, DecidableEq

/-- Sets one switch. The switch for greediness changes nothing here, and Unicode
classes can be asked for but not turned off. -/
def Flags.set (flags : Flags) (letter : Char) (on : Bool) : Option Flags :=
  match letter with
  | 'i' => some { flags with ignoreCase := on }
  | 'm' => some { flags with multiLine := on }
  | 's' => some { flags with dotAll := on }
  | 'U' => some flags
  | 'u' => if on then some flags else none
  | _ => none

/-- Sets the switches of a list of letters, in which those after a minus sign
are turned off. No letter comes twice, and a minus sign has letters after it. -/
def Flags.setAll (flags : Flags) (letters : Text) : Option Flags := do
  let on := letters.takeWhile (· != '-')
  let off := (letters.dropWhile (· != '-')).drop 1
  guard ((on ++ off).Nodup)
  guard (!(letters.elem '-' && off.isEmpty))
  let flags ← on.foldlM (fun f c => f.set c true) flags
  off.foldlM (fun f c => f.set c false) flags

/-- Whether a character may stand in the name of a group. -/
def isNameChar (c : Char) : Bool :=
  c == '_' || c == '.' || c == '[' || c == ']' || isWordChar c

/-- Reads the name of a group and its closing bracket. A name starts with a
letter or an underscore. -/
def readName (t : Text) : Option (Text × Text) := do
  let name := t.takeWhile isNameChar
  let c ← name.head?
  guard (c == '_' || (isWordChar c && !isDigitChar c))
  match t.dropWhile isNameChar with
  | '>' :: rest => return (name, rest)
  | _ => none

/-! ## Bracketed sets -/

/-- An operation between two sets. -/
inductive SetOperation where
  | intersection
  | difference
  | symmetricDifference
deriving Repr, DecidableEq

/-- The set that an operation gives. -/
def SetOperation.apply : SetOperation → CharSet → CharSet → CharSet
  | .intersection => .intersection
  | .difference => .difference
  | .symmetricDifference => .symmetricDifference

/-- A set with the height of the expression it was written as. -/
structure Sized (α : Type) where
  value : α
  height : Nat
deriving Repr

/-- The greatest height of a list. -/
def maxHeight {α : Type} (items : List (Sized α)) : Nat := (items.map (·.height)).foldl max 0

/-- The height of a row of items, which counts one level when there are several. -/
def rowHeight {α : Type} (items : List (Sized α)) : Nat :=
  if items.length ≤ 1 then maxHeight items else maxHeight items + 1

/-- A bracketed set that is still open: whether it is negated, its items so far
with the latest first, and what stands before the last operation. -/
structure OpenSet where
  isNegated : Bool
  items : List (Sized CharSet)
  left : Option (SetOperation × Sized CharSet)
deriving Repr

/-- Closes a set under changes of case if the flag asks for it. -/
def Flags.fold (flags : Flags) (s : CharSet) : CharSet :=
  if flags.ignoreCase then .anyCase s else s

/-- The set of everything up to here, the operation before the last items
included. -/
def OpenSet.combined (flags : Flags) (o : OpenSet) : Sized CharSet :=
  let items : Sized CharSet := ⟨CharSet.unions (o.items.map (·.value)), rowHeight o.items⟩
  match o.left with
  | none => items
  | some (operation, left) =>
    ⟨operation.apply (flags.fold left.value) (flags.fold items.value),
      max left.height items.height + 1⟩

/-- The set at its closing bracket. -/
def OpenSet.close (flags : Flags) (o : OpenSet) : Sized CharSet :=
  let inner := o.combined flags
  let folded := flags.fold inner.value
  ⟨if o.isNegated then .complement folded else folded, inner.height + 1⟩

/-- The set with one more item. -/
def OpenSet.add (o : OpenSet) (item : Sized CharSet) : OpenSet :=
  { o with items := item :: o.items }

/-- The set with what stands so far before an operation. -/
def OpenSet.operate (flags : Flags) (o : OpenSet) (operation : SetOperation) : OpenSet :=
  { o with items := [], left := some (operation, o.combined flags) }

/-- Reads the start of a bracketed set after its opening bracket: a caret
negates; hyphens, or one closing bracket, stand for themselves. -/
def readSetStart (t : Text) : OpenSet × Text :=
  let (isNegated, t) := match t with
    | '^' :: rest => (true, rest)
    | t => (false, t)
  let hyphens := t.takeWhile (· == '-')
  let o : OpenSet := ⟨isNegated, hyphens.map fun c => ⟨.single c, 0⟩, none⟩
  match hyphens, t.dropWhile (· == '-') with
  | [], ']' :: rest => (o.add ⟨.single ']', 0⟩, rest)
  | _, rest => (o, rest)

/-- Reads a named class such as `[:alpha:]` after its opening bracket. A caret
negates it, after it has been closed under changes of case. -/
def readNamedSet (flags : Flags) (t : Text) : Option (CharSet × Text) := do
  let t ← match t with
    | ':' :: rest => some rest
    | _ => none
  let (isNegated, t) := match t with
    | '^' :: rest => (true, rest)
    | t => (false, t)
  let name := t.takeWhile (· != ':')
  match t.dropWhile (· != ':') with
  | ':' :: ']' :: rest =>
    let set ← CharSet.named.lookup name
    return (if isNegated then .complement (flags.fold set) else flags.fold set, rest)
  | _ => none

/-- Reads one end of a range, or an item on its own. -/
def readSetItem : Text → Option (Escape × Text)
  | [] => none
  | '\\' :: rest => readEscape rest
  | c :: rest => some (.literal c, rest)

/-- The set that an item is. -/
def Escape.set? : Escape → Option CharSet
  | .literal c => some (.single c)
  | .set s => some s
  | .assertion _ => none

/-- Reads an item of a bracketed set, which is a range when a hyphen follows
that neither closes the set nor doubles. -/
def readSetRange (t : Text) : Option (CharSet × Text) := do
  let (first, t) ← readSetItem t
  let single := first.set?.map fun s => (s, t)
  match t with
  | '-' :: ']' :: _ => single
  | '-' :: '-' :: _ => single
  | '-' :: rest =>
    let (last, rest) ← readSetItem rest
    match first, last with
    | .literal a, .literal b => if a ≤ b then return (.range a b, rest) else none
    | _, _ => none
  | _ => single

/-! ## The whole pattern -/

/-- A group that is still open: its finished branches and the items of the last
one, with the latest first; the flags to go back to when it closes. A switch of
flags is an item without a pattern. -/
structure OpenGroup where
  branches : List (Sized Pattern)
  items : List (Sized (Option Pattern))
  flagsAfter : Flags
deriving Repr

/-- A group with nothing in it. -/
def OpenGroup.start (flagsAfter : Flags) : OpenGroup := ⟨[], [], flagsAfter⟩

/-- The pattern of a row of items. -/
def sequence (items : List (Sized (Option Pattern))) : Sized Pattern :=
  match items.reverse.filterMap (·.value) with
  | [] => ⟨.empty, rowHeight items⟩
  | p :: ps => ⟨ps.foldl .seq p, rowHeight items⟩

/-- The pattern of the branches of a group. -/
def OpenGroup.pattern (g : OpenGroup) : Sized Pattern :=
  let branches := sequence g.items :: g.branches
  match branches.map (·.value) with
  | [] => ⟨.empty, 0⟩
  | p :: ps => ⟨ps.foldl (fun later earlier => .alt earlier later) p, rowHeight branches⟩

/-- The group with one more item. -/
def OpenGroup.add (g : OpenGroup) (p : Pattern) (height : Nat) : OpenGroup :=
  { g with items := ⟨some p, height⟩ :: g.items }

/-- The state of the reader: the group that is being read and those around it,
the bracketed sets that are open in it, the flags, and the names of groups. -/
structure Reading where
  group : OpenGroup
  outer : List OpenGroup
  sets : List OpenSet
  flags : Flags
  names : List Text
deriving Repr

/-- The state before the first character. -/
def Reading.initial : Reading := ⟨OpenGroup.start {}, [], [], {}, []⟩

/-- One more item in the current group. -/
def Reading.add (r : Reading) (p : Pattern) (height : Nat) : Reading :=
  { r with group := r.group.add p height }

/-- A group opens. Flags given to it last until it closes. -/
def Reading.openGroup (r : Reading) (flags : Flags) : Reading :=
  { r with group := OpenGroup.start r.flags, outer := r.group :: r.outer, flags := flags }

/-- The innermost group closes. -/
def Reading.closeGroup (r : Reading) : Option Reading :=
  match r.outer with
  | [] => none
  | parent :: outer =>
    let p := r.group.pattern
    some { r with
      group := parent.add p.value (p.height + 1), outer := outer, flags := r.group.flagsAfter }

/-- The last item is repeated. Neither nothing nor a switch of flags can be. -/
def Reading.repeatLast (r : Reading) (bounds : Nat × Option Nat) : Option Reading :=
  match r.group.items with
  | ⟨some p, height⟩ :: rest =>
    some { r with
      group := { r.group with items := ⟨some (.loop p bounds.1 bounds.2), height + 1⟩ :: rest } }
  | _ => none

/-- Reads what follows an opening parenthesis. -/
def Reading.readGroup (r : Reading) (t : Text) : Option (Reading × Text) :=
  let named (rest : Text) : Option (Reading × Text) := do
    let (name, rest) ← readName rest
    guard (!r.names.elem name)
    return ({ r with names := name :: r.names }.openGroup r.flags, rest)
  match t with
  | '?' :: 'P' :: '<' :: rest => named rest
  | '?' :: '<' :: '=' :: _ => none
  | '?' :: '<' :: '!' :: _ => none
  | '?' :: '<' :: rest => named rest
  | '?' :: rest => do
    let letters := rest.takeWhile fun c => c != ':' && c != ')'
    let flags ← r.flags.setAll letters
    match rest.dropWhile fun c => c != ':' && c != ')' with
    | ':' :: after => return (r.openGroup flags, after)
    | ')' :: after =>
      guard (!letters.isEmpty)
      let items := ⟨none, 0⟩ :: r.group.items
      return ({ r with flags := flags, group := { r.group with items := items } }, after)
    | _ => none
  | rest => some (r.openGroup r.flags, rest)

/-- Reads one item inside a bracketed set. -/
def Reading.readInSet (r : Reading) (o : OpenSet) (outer : List OpenSet) (t : Text) :
    Option (Reading × Text) :=
  let resume (o : OpenSet) (rest : Text) : Reading × Text :=
    ({ r with sets := o :: outer }, rest)
  match t with
  | '[' :: rest =>
    match readNamedSet r.flags rest with
    | some (s, rest) => some (resume (o.add ⟨s, 0⟩) rest)
    | none =>
      let (inner, rest) := readSetStart rest
      some ({ r with sets := inner :: o :: outer }, rest)
  | ']' :: rest =>
    let s := o.close r.flags
    match outer with
    | [] => some ({ r with sets := [] }.add (.one s.value) s.height, rest)
    | parent :: outer => some ({ r with sets := parent.add s :: outer }, rest)
  | '&' :: '&' :: rest => some (resume (o.operate r.flags .intersection) rest)
  | '-' :: '-' :: rest => some (resume (o.operate r.flags .difference) rest)
  | '~' :: '~' :: rest => some (resume (o.operate r.flags .symmetricDifference) rest)
  | t => (readSetRange t).map fun read => resume (o.add ⟨read.1, 0⟩) read.2

/-- The set that a dot stands for. -/
def Flags.dot (flags : Flags) : CharSet :=
  if flags.dotAll then .complement .none else .complement (.single '\n')

/-- One literal character. -/
def Reading.literal (r : Reading) (c : Char) : Reading :=
  r.add (.one (r.flags.fold (.single c))) 0

/-- Reads one item outside bracketed sets. -/
def Reading.readItem (r : Reading) (t : Text) : Option (Reading × Text) :=
  match t with
  | [] => none
  | '(' :: rest => r.readGroup rest
  | ')' :: rest => r.closeGroup.map fun r => (r, rest)
  | '|' :: rest =>
    let g := r.group
    some ({ r with group := { g with branches := sequence g.items :: g.branches, items := [] } },
      rest)
  | '[' :: rest =>
    let (o, rest) := readSetStart rest
    some ({ r with sets := [o] }, rest)
  | '\\' :: rest =>
    (readEscape rest).map fun read =>
      match read.1 with
      | .literal c => (r.literal c, read.2)
      | .set s => (r.add (.one s) 0, read.2)
      | .assertion a => (r.add (.assert a) 0, read.2)
  | '.' :: rest => some (r.add (.one r.flags.dot) 0, rest)
  | '^' :: rest =>
    some (r.add (.assert (if r.flags.multiLine then .lineStart else .textStart)) 0, rest)
  | '$' :: rest =>
    some (r.add (.assert (if r.flags.multiLine then .lineEnd else .textEnd)) 0, rest)
  | c :: rest =>
    if c = '?' || c = '*' || c = '+' || c = '\x7b' then do
      let (bounds, after) ← readRepetition t
      let r ← r.repeatLast bounds
      return (r, after)
    else some (r.literal c, rest)

/-- One step of the reader, inside or outside a bracketed set. -/
def Reading.step (r : Reading) (t : Text) : Option (Reading × Text) :=
  match r.sets with
  | [] => r.readItem t
  | o :: outer => r.readInSet o outer t

/-- Reads a text of which the first `skip` characters have been read already. -/
def readFrom (r : Reading) : Nat → Text → Option Reading
  | _, [] => some r
  | skip + 1, _ :: rest => readFrom r skip rest
  | 0, c :: rest =>
    (r.step (c :: rest)).bind fun read => readFrom read.1 (rest.length - read.2.length) rest

/-- The greatest height of a pattern that is accepted. -/
def maxNesting : Nat := 250

/-- Reads a pattern; `none` when the text is not one. -/
def read? (t : Text) : Option Pattern := do
  let r ← readFrom Reading.initial 0 t
  guard (r.outer.isEmpty && r.sets.isEmpty)
  let p := r.group.pattern
  guard (p.height ≤ maxNesting)
  return p.value

end SchemaLint.Pattern
