import SchemaLint.Pattern.WordChar
import SchemaLint.Text.Blank
import SchemaLint.Text.CaseFold

/-!
Sets of characters as expressions, which is how a pattern gives them: single
characters, ranges and named classes, combined by the operations of sets, and
closed under changes of case where the pattern asks for it.
-/

namespace SchemaLint.Pattern

/-- A set of characters. -/
inductive CharSet where
  | none
  | single (c : Char)
  | range (first last : Char)
  | digit
  | space
  | word
  | union (s t : CharSet)
  | intersection (s t : CharSet)
  | difference (s t : CharSet)
  | symmetricDifference (s t : CharSet)
  | complement (s : CharSet)
  /-- All characters that equal one of the set without regard to case. -/
  | anyCase (s : CharSet)
deriving Repr, DecidableEq

namespace CharSet

/-- Whether a character belongs to a set. -/
def has : CharSet → Char → Bool
  | .none, _ => false
  | .single d, c => c == d
  | .range first last, c => first ≤ c && c ≤ last
  | .digit, c => isDigitChar c
  | .space, c => Text.isBlankChar c
  | .word, c => isWordChar c
  | .union s t, c => s.has c || t.has c
  | .intersection s t, c => s.has c && t.has c
  | .difference s t, c => s.has c && !t.has c
  | .symmetricDifference s t, c => s.has c != t.has c
  | .complement s, c => !s.has c
  | .anyCase s, c => (Text.caseVariants c).any fun d => s.has d

/-- The union of a list of sets. -/
def unions (sets : List CharSet) : CharSet := sets.foldr .union .none

/-- The union of ranges. -/
def ranges (pairs : List (Char × Char)) : CharSet :=
  unions (pairs.map fun pair => .range pair.1 pair.2)

/-- The ASCII classes by name. -/
def named : List (Text × CharSet) :=
  [("alnum", ranges [('0', '9'), ('A', 'Z'), ('a', 'z')]),
   ("alpha", ranges [('A', 'Z'), ('a', 'z')]),
   ("ascii", ranges [('\x00', '\x7f')]),
   ("blank", ranges [('\t', '\t'), (' ', ' ')]),
   ("cntrl", ranges [('\x00', '\x1f'), ('\x7f', '\x7f')]),
   ("digit", ranges [('0', '9')]),
   ("graph", ranges [('!', '~')]),
   ("lower", ranges [('a', 'z')]),
   ("print", ranges [(' ', '~')]),
   ("punct", ranges [('!', '/'), (':', '@'), ('[', '\x60'), ('\x7b', '~')]),
   ("space", ranges [('\t', '\t'), ('\n', '\n'), ('\x0b', '\x0b'), ('\x0c', '\x0c'),
     ('\r', '\r'), (' ', ' ')]),
   ("upper", ranges [('A', 'Z')]),
   ("word", ranges [('0', '9'), ('A', 'Z'), ('_', '_'), ('a', 'z')]),
   ("xdigit", ranges [('0', '9'), ('A', 'F'), ('a', 'f')])]

end CharSet

end SchemaLint.Pattern
