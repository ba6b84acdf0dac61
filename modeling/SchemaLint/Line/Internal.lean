import SchemaLint.Line.Basic

/-!
Warnings of the compiler about its own input, `[libprotobuf WARNING …] message`.
They give no position; the file is the first word of the message with `.proto`
in it, without a period that ends the sentence.
-/

namespace SchemaLint.Line

/-- The file that a warning names. -/
def warningFile? (message : Text) : Option Text :=
  ((Text.words message).find? (Text.contains protoEnding)).map (Text.dropEnding ['.'])

/-- Reads a line as a compiler warning. The closing bracket occurs exactly
once. -/
def internal (line : Text) : Reading :=
  if !isInternalWarning line then .ok none
  else
    match Text.halves? [']'] line with
    | none => .error ⟨.malformedWarning, line⟩
    | some (_, message) =>
      match warningFile? (Text.trim message) with
      | none => .error ⟨.missingFile, line⟩
      | some file => do
        let rule ← styleRule (Text.trim message) line
        return some (Record.make (.style rule) .compilerWarning line file 1 1 none)

/-- A compiler warning as the compiler writes it, with `place` inside the
brackets. -/
def printWarning (place message : Text) : Text := warningMark ++ place ++ "]" ++ message

end SchemaLint.Line
