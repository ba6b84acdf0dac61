import SchemaLint.Record
import SchemaLint.Text.Blank
import SchemaLint.Text.LowerCase

/-!
What the shapes of diagnostic lines have in common: the reasons why a line
cannot be read, the recognition of a message by the phrases in it, and the
reading of line and column numbers.

A shape is a function that gives a record, nothing when the line does not have
the shape, or an error when it has the shape and cannot be read.
-/

namespace SchemaLint

/-- Why a line could not be read. -/
inductive LineFault where
  /-- The line has none of the shapes. -/
  | unrecognized
  /-- A style issue or a compiler warning whose message is not known. -/
  | unknownStyle
  /-- No schema file is named. -/
  | missingFile
  /-- A compiler warning that does not split into its bracket and a message. -/
  | malformedWarning
  /-- A compile error whose message does not quote what it is about. -/
  | missingContext (error : CompileError)
  /-- A line or column that is not a positive number of 32 bits. -/
  | invalidPosition (value : Text)
deriving Repr, DecidableEq

/-- A line that could not be read, and why. -/
structure LineError where
  fault : LineFault
  line : Text
deriving Repr, DecidableEq

/-- The message of an error. -/
def LineError.message (e : LineError) : Text :=
  match e.fault with
  | .unrecognized => "No way to handle output: '" ++ e.line ++ "'"
  | .unknownStyle => "Cannot parse issue line for type: '" ++ e.line ++ "'"
  | .missingFile => "No protobuf file named in compiler warning: '" ++ e.line ++ "'"
  | .malformedWarning => "Malformed compiler warning: '" ++ e.line ++ "'"
  | .missingContext error =>
    "Error is unimplemented for context (" ++ error.profile.name ++ "): '" ++ e.line ++ "'"
  | .invalidPosition value => "Invalid position '" ++ value ++ "' in: '" ++ e.line ++ "'"

namespace Line

/-- What reading a line as one shape gives. -/
abbrev Reading := Except LineError (Option Record)

/-- The end of the name of a schema file. -/
def protoEnding : Text := ".proto"

/-- The mark of the compiler's warnings about its own input. -/
def warningMark : Text := "[libprotobuf WARNING"

/-- Whether a line holds the mark of a compiler warning. -/
def isInternalWarning (line : Text) : Bool := Text.contains warningMark line

/-- The first style warning whose phrase occurs in a message. -/
def styleRule? (message : Text) : Option StyleRule :=
  StyleRule.all.find? fun rule => Text.contains rule.marker (Text.lowerCase message)

/-- The first compile error whose phrase occurs in a message. -/
def compileError? (message : Text) : Option CompileError :=
  CompileError.all.find? fun error => Text.contains error.marker (Text.lowerCase message)

/-- The style warning of a message in a given line. -/
def styleRule (message line : Text) : Except LineError StyleRule :=
  match styleRule? message with
  | some rule => .ok rule
  | none => .error ⟨.unknownStyle, line⟩

/-- Reads a line or column number in a given line: blanks around it do not
count, and it is at least 1 and at most the greatest number of 32 bits. -/
def position (value line : Text) : Except LineError Nat :=
  match Text.numberUpTo? Text.maxWord32 (Text.trim value) with
  | some (n + 1) => .ok (n + 1)
  | _ => .error ⟨.invalidPosition (Text.trim value), line⟩

/-- Reads a number that may be missing, and is 1 then. -/
def positionOrOne (value : Option Text) (line : Text) : Except LineError Nat :=
  match value with
  | some value => position value line
  | none => .ok 1

end Line

end SchemaLint
