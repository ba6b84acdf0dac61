import SchemaLint.Json.Token

/-!
Reading JSON values from their tokens, by a machine that looks at one token at a
time. Its stack holds the arrays and objects that are open, so the depth of
nesting is the height of the stack, and a limit on it is a limit on that height.
-/

namespace SchemaLint.Json

/-- An array or object that is still open, with what it has so far. The items of
an array are kept with the latest first; a member frame also has the key whose
value comes next. -/
inductive Frame where
  | array (items : List Json)
  | object (members : Members)
  | member (members : Members) (key : Text)
deriving Repr

/-- What the machine waits for. -/
inductive State where
  /-- A value. -/
  | value (stack : List Frame)
  /-- The first item of an array, or its end. -/
  | firstItem (stack : List Frame)
  /-- The first key of an object, or its end. -/
  | firstKey (stack : List Frame)
  /-- A further key of an object. -/
  | furtherKey (members : Members) (stack : List Frame)
  /-- The colon after a key. -/
  | colon (members : Members) (key : Text) (stack : List Frame)
  /-- What may follow a finished value. -/
  | finished (v : Json) (stack : List Frame)
deriving Repr

/-- The value that a token is by itself. -/
def Token.atom? : Token → Option Json
  | .null => some .null
  | .bool b => some (.bool b)
  | .number n => some (.number n)
  | .string t => some (.string t)
  | _ => none

/-- The token at which a value starts: an atom is finished at once, an array or
object is opened unless `limit` of them are open. -/
def State.start (limit : Nat) (stack : List Frame) (token : Token) : Option State :=
  match token with
  | .openArray => if stack.length < limit then some (.firstItem stack) else none
  | .openObject => if stack.length < limit then some (.firstKey stack) else none
  | token => token.atom?.map fun v => .finished v stack

/-- The token after a finished value, which belongs to the innermost open array
or object. -/
def State.close (v : Json) (stack : List Frame) (token : Token) : Option State :=
  match stack, token with
  | .array items :: rest, .comma => some (.value (.array (v :: items) :: rest))
  | .array items :: rest, .closeArray => some (.finished (.array (v :: items).reverse) rest)
  | .member members key :: rest, .comma => some (.furtherKey (members.set key v) rest)
  | .member members key :: rest, .closeObject =>
    some (.finished (.object (members.set key v)) rest)
  | _, _ => none

/-- One token. -/
def State.step (limit : Nat) (state : State) (token : Token) : Option State :=
  match state with
  | .value stack => State.start limit stack token
  | .firstItem stack =>
    match token with
    | .closeArray => some (.finished (.array []) stack)
    | token => State.start limit (.array [] :: stack) token
  | .firstKey stack =>
    match token with
    | .closeObject => some (.finished (.object []) stack)
    | .string key => some (.colon [] key stack)
    | _ => none
  | .furtherKey members stack =>
    match token with
    | .string key => some (.colon members key stack)
    | _ => none
  | .colon members key stack =>
    match token with
    | .colon => some (.value (.member members key :: stack))
    | _ => none
  | .finished v stack => State.close v stack token

/-- The value of a complete sequence of tokens. -/
def ofTokens? (limit : Nat) (tokens : List Token) : Option Json :=
  match tokens.foldlM (State.step limit) (State.value []) with
  | some (.finished v []) => some v
  | _ => none

/-- The greatest depth of nesting that is read. -/
def maxDepth : Nat := 127

/-- Reads a text that holds one value, and white space around it. -/
def read? (t : Text) : Option Json := (tokens? t).bind (ofTokens? maxDepth)

end SchemaLint.Json
