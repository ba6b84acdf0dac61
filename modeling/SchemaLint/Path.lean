import SchemaLint.Text.Basic

/-!
Paths. A path is kept as it is spelled, and compared by its components:
repeated and trailing separators and inner dots do not count, a leading dot and
every double dot do. Joining works on the spelling, so it adds a separator only
where one is missing, and an absolute path replaces what it is joined to.

The spelling is a text, so there are no paths that are not well-formed UTF-8, and a
path is shown as it is spelled.
-/

namespace SchemaLint

/-- A path as it is spelled. -/
structure Path where
  text : Text
deriving Repr, DecidableEq, Inhabited

namespace Path

/-- A component of a path. -/
inductive Component where
  | root
  | here
  | up
  | name (n : Text)
deriving Repr, DecidableEq

/-- The component that a part between separators is, if it counts. -/
def component? (part : Text) : Option Component :=
  if part = [] then none
  else if part = ['.'] then none
  else if part = ['.', '.'] then some .up
  else some (.name part)

/-- The parts of a text between its separators. -/
def parts (t : Text) : List Text := t.splitOnP (· == '/')

/-- The components of a path. -/
def components (p : Path) : List Component :=
  match p.text with
  | [] => []
  | '/' :: rest => .root :: (parts rest).filterMap component?
  | _ =>
    match parts p.text with
    | ['.'] :: rest => .here :: rest.filterMap component?
    | all => all.filterMap component?

/-- Whether the path starts at the root. -/
def isAbsolute (p : Path) : Bool := p.text.head? = some '/'

/-- Whether two paths have the same components. -/
def Same (p q : Path) : Prop := p.components = q.components

instance (p q : Path) : Decidable (p.Same q) := inferInstanceAs (Decidable (_ = _))

/-- Whether the components of `q` are the last ones of `p`. -/
def endsWith (p q : Path) : Bool := q.components.isSuffixOf p.components

/-- The components of `p` after those of `base`, when `p` starts with them. -/
def below? (base p : Path) : Option (List Component) :=
  if base.components.isPrefixOf p.components then
    some (p.components.drop base.components.length)
  else none

/-- A text appended to a path, with a separator where one is missing. -/
def append (p : Path) (t : Text) : Path :=
  if p.text = [] || p.text.getLast? = some '/' then ⟨p.text ++ t⟩ else ⟨p.text ++ '/' :: t⟩

/-- A path taken relative to another. -/
def join (p q : Path) : Path := if q.isAbsolute then q else p.append q.text

/-- The names among components, in order. -/
def names (cs : List Component) : List Text :=
  cs.filterMap fun c => match c with
    | .name n => some n
    | _ => none

/-- The spelling of a component on its own. -/
def Component.text : Component → Text
  | .root => "/"
  | .here => "."
  | .up => ".."
  | .name n => n

/-- A relative path that is not empty, from a given directory on: components are
appended one by one, which leaves out dots and repeated separators, and a
separator at the end stays. -/
def absoluteFrom (directory p : Path) : Path :=
  let joined := (p.components.filter (· ≠ .here)).foldl (fun q c => q.append c.text) directory
  if p.text.getLast? = some '/' then joined.append [] else joined

/-- Whether a file name has the given extension: there is something before the
last dot, and the extension after it. -/
def hasExtension (extension name : Text) : Bool :=
  Text.endsWith ('.' :: extension) name && name.length > extension.length + 1

end Path

end SchemaLint
