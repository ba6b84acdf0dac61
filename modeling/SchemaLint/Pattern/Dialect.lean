import SchemaLint.Pattern.Engine
import SchemaLint.Pattern.Matcher
import SchemaLint.Pattern.Reader

/-!
The engine of the patterns that `Pattern.read?` reads. It is the one the program
runs with. Its patterns have no classes by Unicode properties and no switches for
spaces between their parts, for other line ends or for octets instead of
characters, and nothing limits the size of what they compile to.
-/

namespace SchemaLint

/-- The engine that reads patterns with `read?` and looks for the leftmost match. -/
def Pattern.dialect : PatternEngine where
  Compiled := Pattern
  compile t :=
    match read? t with
    | some p => .ok p
    | none => .error "not a pattern that can be read"
  find := leftmost?

end SchemaLint
