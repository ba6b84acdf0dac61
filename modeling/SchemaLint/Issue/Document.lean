import SchemaLint.Issue.Basic
import SchemaLint.Json.Printer
import SchemaLint.Text.Utf8

/-!
The document of an issue: a JSON object on one line. `ofJson?` reads the object
back. In a stream each document is followed by a null character and a line feed,
which occur nowhere inside it.
-/

namespace SchemaLint

namespace Position

/-- A position as a JSON object. -/
def toJson (p : Position) : Json :=
  .object [("line", .number (.natural p.line)), ("column", .number (.natural p.column))]

/-- Reads a position from a JSON object. -/
def ofJson? (j : Json) : Option Position := do
  let line ← (← j.get? "line").natural?
  let column ← (← j.get? "column").natural?
  return ⟨line, column⟩

end Position

namespace Severity

/-- The severity with a given name. -/
def ofName? (name : Text) : Option Severity :=
  [minor, major, critical].find? fun s => s.name == name

end Severity

namespace Category

/-- The category with a given name. -/
def ofName? (name : Text) : Option Category :=
  [compatibility, style, bugRisk].find? fun c => c.name == name

end Category

namespace Issue

/-- The type that every issue document gives. -/
def typeName : Text := "issue"

/-- The place of an issue as a JSON object. -/
def locationJson (i : Issue) : Json :=
  .object
    [("path", .string i.path),
     ("positions", .object [("begin", i.first.toJson), ("end", i.last.toJson)])]

/-- An issue as a JSON object. -/
def toJson (i : Issue) : Json :=
  .object
    [("type", .string typeName),
     ("check_name", .string i.checkName),
     ("description", .string i.description),
     ("categories", .array (i.categories.map fun c => .string c.name)),
     ("severity", .string i.severity.name),
     ("fingerprint", .string i.fingerprint),
     ("location", i.locationJson)]

/-- Reads an issue from a JSON object. -/
def ofJson? (j : Json) : Option Issue := do
  let type ← (← j.get? "type").text?
  guard (type = typeName)
  let checkName ← (← j.get? "check_name").text?
  let description ← (← j.get? "description").text?
  let names ← (← j.get? "categories").items?
  let categories ← names.mapM fun name => name.text?.bind Category.ofName?
  let severity ← (← j.get? "severity").text?.bind Severity.ofName?
  let fingerprint ← (← j.get? "fingerprint").text?
  let location ← j.get? "location"
  let path ← (← location.get? "path").text?
  let positions ← location.get? "positions"
  let first ← Position.ofJson? (← positions.get? "begin")
  let last ← Position.ofJson? (← positions.get? "end")
  return { checkName, description, categories, severity, fingerprint, path, first, last }

/-- The document of an issue. -/
def document (i : Issue) : List UInt8 := Text.utf8 i.toJson.compact

/-- What follows a document in a stream. -/
def terminator : List UInt8 := [0, 10]

end Issue

end SchemaLint
