import SchemaLint.Line.Basic

/-!
Errors of the compiler, `file[:line[:column]]: message`. A line of this shape
whose message is not known is left to the shapes that come after. `printCompile`
writes the three forms of the shape.
-/

namespace SchemaLint.Line

/-- What stands between the locator of a compile error and its message. -/
def compileDelimiter : Text := ": "

/-- The text between the first two double quotes. -/
def firstQuoted? (message : Text) : Option Text :=
  (Text.after? '"' message).bind fun rest =>
    (Text.after? '"' rest).map fun _ => Text.before '"' rest

/-- What a compile error is about, as its message quotes it. Three errors need
none; for the others it has to be there, and for an import it has to name a
schema file. -/
def compileContext (error : CompileError) (message line : Text) :
    Except LineError (Option Text) :=
  let needed (found : Option Text) : Except LineError (Option Text) :=
    match found with
    | some context => .ok (some context)
    | none => .error ⟨.missingContext error, line⟩
  match error with
  | .fileNotFound => .ok none
  | .unexpectedEndOfInput => .ok none
  | .missingFieldNumber => .ok none
  | .importUnresolved => needed ((firstQuoted? message).filter (Text.contains protoEnding))
  | .unexpectedToken => needed (firstQuoted? message)
  | .symbolNotDefined => needed (firstQuoted? message)

/-- The file of a locator, and its line and column if it has them. The column is
everything after the second colon. -/
def locatorFields (locator : Text) : Text × Option Text × Option Text :=
  let rest := Text.after? ':' locator
  (Text.before ':' locator, rest.map (Text.before ':'), rest.bind (Text.after? ':'))

/-- Reads a line as a compile error. The delimiter occurs exactly once. -/
def compile (line : Text) : Reading :=
  match Text.halves? compileDelimiter line with
  | none => .ok none
  | some (locator, message) =>
    let message := Text.trim message
    match compileError? message with
    | none => .ok none
    | some error => do
      let context ← compileContext error message line
      let (file, lineNumber, column) := locatorFields (Text.trim locator)
      let lineNumber ← positionOrOne lineNumber line
      let column ← positionOrOne column line
      return some (Record.make (.compile error) .compiler line (Text.trim file) lineNumber
        column context)

/-- The place that a compile error names: a file alone, with a line, or with a
line and a column. -/
inductive Locator where
  | bare (file : Text)
  | withLine (file : Text) (line : Nat)
  | withColumn (file : Text) (line column : Nat)
deriving Repr, DecidableEq

/-- A locator as the compiler writes it. -/
def Locator.print : Locator → Text
  | .bare file => file
  | .withLine file line => file ++ ":" ++ Text.numeral line
  | .withColumn file line column =>
    file ++ ":" ++ Text.numeral line ++ ":" ++ Text.numeral column

/-- A compile error as the compiler writes it. -/
def printCompile (locator : Locator) (message : Text) : Text :=
  locator.print ++ compileDelimiter ++ message

end SchemaLint.Line
