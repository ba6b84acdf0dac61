import SchemaLint.Config.Basic
import SchemaLint.Text.Quoted
import SchemaLint.Json.Printer

/-!
The wording of the errors of a configuration.
-/

namespace SchemaLint

/-- What was found in place of something else. A floating-point number is
written with its point in place. -/
def Json.foundText : Json → Text
  | .null => "null"
  | .bool b => "boolean `" ++ (if b then "true" else "false" : Text) ++ "`"
  | .number (.float isNegative magnitude) =>
    "floating point `" ++ (if isNegative then ['-'] else []) ++ magnitude.plainText ++ "`"
  | .number n => "integer `" ++ Json.numberText n ++ "`"
  | .string t => "string " ++ Text.quoted t
  | .array _ => "sequence"
  | .object _ => "map"

/-- The wording of a mismatch. -/
def Mismatch.text : Mismatch → Text
  | .wrongType found expected =>
    "invalid type: " ++ found.foundText ++ ", expected " ++ expected.text
  | .tooLong length =>
    "invalid length " ++ Text.numeral length ++ ", expected fewer elements in array"

/-- The wording of an error, without what it is an error of. -/
def ConfigError.text : ConfigError → Text
  | .unreadable file reason =>
    "Failed to read config file " ++ file.text ++ ": " ++ reason.message
  | .notJson => "Invalid JSON"
  | .notObject => "Config must be a JSON object"
  | .mismatch m => "Invalid config: " ++ m.text
  | .other reason => reason

end SchemaLint
