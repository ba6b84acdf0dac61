import SchemaLint.Json.Basic
import SchemaLint.Text.Numeral
import SchemaLint.Binary64.Shortest

/-!
JSON text of a value, in a compact form on one line and in a form with one item
a line. In a string only the quote, the backslash and the control characters
below the space are escaped; everything else stands for itself, so a written
value holds neither a null character nor a line feed inside its strings.
-/

namespace SchemaLint.Json

/-- The four hexadecimal digits of a number below `2 ^ 16`. -/
def hex4 (n : Nat) : Text :=
  [n / 4096 % 16, n / 256 % 16, n / 16 % 16, n % 16].map Nat.digitChar

/-- A character inside a string. -/
def escapeChar (c : Char) : Text :=
  match c with
  | '"' => ['\\', '"']
  | '\\' => ['\\', '\\']
  | '\n' => ['\\', 'n']
  | '\r' => ['\\', 'r']
  | '\t' => ['\\', 't']
  | _ =>
    if c.toNat == 8 then ['\\', 'b']
    else if c.toNat == 12 then ['\\', 'f']
    else if c.toNat < 32 then '\\' :: 'u' :: hex4 c.toNat
    else [c]

/-- A string with its quotes. -/
def stringText (t : Text) : Text := '"' :: t.flatMap escapeChar ++ ['"']

/-- A number. -/
def numberText : JsonNumber → Text
  | .natural n => Text.numeral n
  | .negative n => '-' :: Text.numeral n
  | .float isNegative magnitude =>
    (if isNegative then ['-'] else []) ++ magnitude.compactText

/-- The text of a value that is neither an array nor an object. -/
def atomText : Json → Text
  | .null => "null"
  | .bool true => "true"
  | .bool false => "false"
  | .number n => numberText n
  | .string t => stringText t
  | .array _ => []
  | .object _ => []

/-! ## One line -/

mutual

/-- The text of a value without any white space. -/
def compact : Json → Text
  | .array items => '[' :: compactItems items ++ [']']
  | .object members => '\x7b' :: compactMembers members ++ ['\x7d']
  | value => atomText value

/-- The items of an array with commas between them. -/
def compactItems : List Json → Text
  | [] => []
  | [item] => compact item
  | item :: next :: rest => compact item ++ ',' :: compactItems (next :: rest)

/-- The members of an object with commas between them. -/
def compactMembers : List (Text × Json) → Text
  | [] => []
  | [(key, value)] => stringText key ++ ':' :: compact value
  | (key, value) :: next :: rest =>
    stringText key ++ ':' :: compact value ++ ',' :: compactMembers (next :: rest)

end

/-! ## One item a line -/

/-- A line feed and the indentation of a depth, two spaces a level. -/
def newLine (depth : Nat) : Text := '\n' :: List.replicate (2 * depth) ' '

mutual

/-- The text of a value at a depth. Empty arrays and objects stay on one line. -/
def indented (depth : Nat) : Json → Text
  | .array [] => "[]"
  | .array (item :: rest) =>
    '[' :: newLine (depth + 1) ++ indented (depth + 1) item ++
      indentedItems (depth + 1) rest ++ newLine depth ++ [']']
  | .object [] => ['\x7b', '\x7d']
  | .object ((key, value) :: rest) =>
    '\x7b' :: newLine (depth + 1) ++ stringText key ++ ": " ++ indented (depth + 1) value ++
      indentedMembers (depth + 1) rest ++ newLine depth ++ ['\x7d']
  | value => atomText value

/-- The further items of an array, each on a line of its own. -/
def indentedItems (depth : Nat) : List Json → Text
  | [] => []
  | item :: rest => ',' :: newLine depth ++ indented depth item ++ indentedItems depth rest

/-- The further members of an object, each on a line of its own. -/
def indentedMembers (depth : Nat) : List (Text × Json) → Text
  | [] => []
  | (key, value) :: rest =>
    ',' :: newLine depth ++ stringText key ++ ": " ++ indented depth value ++
      indentedMembers depth rest

end

/-- The text of a value with one item a line. -/
def pretty (value : Json) : Text := indented 0 value

end SchemaLint.Json
