import SchemaLint.Line.Basic

/-!
Style issues of the lint plugin, `file:line:column: 'context' - message`. The
file ends at the first `.proto` before the first space, and the numbers stand
after the first two colons from there. `printStyle` writes the shape.
-/

namespace SchemaLint.Line

/-- What stands between the head of a style issue and its message. -/
def styleDelimiter : Text := " - "

/-- Whether a character quotes the context. -/
def isQuote (c : Char) : Bool := c == '\'' || c == '"'

/-- A context with the quotes at its ends, and blanks around it, taken off. An
empty one counts as none. -/
def styleContext? (remainder : Text) : Option Text :=
  match Text.trimBy isQuote (Text.trim remainder) with
  | [] => none
  | context => some context

/-- Reads a line as a style issue. A compiler warning is never one, and the
delimiter occurs exactly once. -/
def style (line : Text) : Reading :=
  if isInternalWarning line then .ok none
  else
    match Text.halves? styleDelimiter line with
    | none => .ok none
    | some (head, message) =>
      let locator := Text.before ' ' head
      let context := styleContext? ((Text.after? ' ' head).getD [])
      match Text.cut? protoEnding locator with
      | none => .error ⟨.missingFile, line⟩
      | some (stem, place) => do
        let fields := place.splitOnP (· == ':')
        let lineNumber ← position (fields[1]?.getD []) line
        let column ← position (fields[2]?.getD []) line
        let rule ← styleRule message line
        return some (Record.make (.style rule) .plugin line (stem ++ protoEnding) lineNumber
          column context)

/-- A style issue as the plugin writes it. -/
def printStyle (file : Text) (lineNumber column : Nat) (context message : Text) : Text :=
  file ++ ":" ++ Text.numeral lineNumber ++ ":" ++ Text.numeral column ++ ": '" ++ context ++
    "' - " ++ message

end SchemaLint.Line
