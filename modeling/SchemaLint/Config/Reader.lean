import SchemaLint.Config.Basic
import SchemaLint.Json.Reader
import SchemaLint.FileTree.Lookup

/-!
Reading a configuration. The text has to be JSON and an object; then its members
are gone through in order, and the first one that has not the right form decides
the error. Keys without a meaning are passed over, whatever they hold.

The engine's own section is an object with the key `protopaths`, or an array
whose only item has the place of that key.
-/

namespace SchemaLint

namespace Settings

/-- The texts of an array of strings. -/
def texts : List Json → Except Mismatch (List Text)
  | [] => .ok []
  | .string t :: rest => (texts rest).map (t :: ·)
  | found :: _ => .error (.wrongType found .string)

/-- Reads a list of strings. -/
def textList : Json → Except Mismatch (List Text)
  | .array items => texts items
  | found => .error (.wrongType found .sequence)

/-- Reads a list of strings that may be null. -/
def optionalList : Json → Except Mismatch (Option (List Text))
  | .null => .ok none
  | value => (textList value).map some

/-- Reads the members of the engine's section, after those that gave
`protopaths`. -/
def engineMembers (protopaths : Option (List Text)) :
    Json.Members → Except Mismatch (Option (List Text))
  | [] => .ok protopaths
  | (key, value) :: rest =>
    if key = Config.protopathsKey then
      match optionalList value with
      | .ok found => engineMembers found rest
      | .error m => .error m
    else engineMembers protopaths rest

/-- Reads the engine's section. -/
def engineSection : Json → Except Mismatch (Option (List Text))
  | .object members => engineMembers none members
  | .array [] => .ok none
  | .array (first :: rest) =>
    match optionalList first with
    | .error m => .error m
    | .ok found => if rest.isEmpty then .ok found else .error (.tooLong (rest.length + 1))
  | found => .error (.wrongType found .engineSection)

/-- The settings after one member of the document. -/
def withMember (s : Settings) (key : Text) (value : Json) : Except Mismatch Settings :=
  if key = Config.includeKey then (textList value).map fun found => { s with listedPaths := found }
  else if key = Config.excludeKey then
    (textList value).map fun found => { s with excludePaths := found }
  else if key = Config.engineKey then
    (engineSection value).map fun found => { s with protopaths := found }
  else .ok s

/-- The settings that the members of a document give. -/
def ofMembers (members : Json.Members) : Except Mismatch Settings :=
  members.foldlM (fun s member => s.withMember member.1 member.2) {}

end Settings

namespace Config

/-- Reads a configuration for a workspace from a text. -/
def ofText (t : Text) (workspace : Path) : Except ConfigError Config :=
  match Json.read? t with
  | none => .error .notJson
  | some (.object document) =>
    match Settings.ofMembers document with
    | .ok settings => .ok { settings, document, workspace, source := none }
    | .error m => .error (.mismatch m)
  | some _ => .error .notObject

/-- Reads a configuration for a workspace from a file. -/
def ofFile (host : Host) (file workspace : Path) : Except ConfigError Config :=
  match host.readText file with
  | .error reason => .error (.unreadable file reason)
  | .ok t => (ofText t workspace).map fun c => { c with source := some file }

end Config

end SchemaLint
