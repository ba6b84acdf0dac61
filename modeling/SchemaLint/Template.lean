import SchemaLint.Kind
import SchemaLint.Text.Numeral

/-!
Message templates. A template names the values of a record by placeholders
between percent signs, and is filled in placeholder by placeholder: first all
occurrences of the file, then the line, and so on, each in the text that the
earlier ones have left. A template without a percent sign is its own text.
-/

namespace SchemaLint

/-- The values that a template may name. -/
structure TemplateValues where
  kind : Kind
  raw : Text
  file : Text
  line : Nat
  column : Nat
  context : Option Text
deriving Repr

/-- A placeholder of a template. -/
inductive Placeholder where
  | file
  | line
  | column
  | context
  | type
  | raw
deriving Repr, DecidableEq

namespace Placeholder

/-- All placeholders, in the order in which they are filled in. -/
def all : List Placeholder := [.file, .line, .column, .context, .type, .raw]

/-- A placeholder as a template writes it. -/
def text : Placeholder → Text
  | .file => "%file%"
  | .line => "%line%"
  | .column => "%column%"
  | .context => "%context%"
  | .type => "%type%"
  | .raw => "%raw%"

/-- What a placeholder stands for. A context that is missing is empty. -/
def value (v : TemplateValues) : Placeholder → Text
  | .file => v.file
  | .line => Text.numeral v.line
  | .column => Text.numeral v.column
  | .context => v.context.getD []
  | .type => v.kind.name
  | .raw => v.raw

end Placeholder

/-- A template with its placeholders filled in. -/
def render (template : Text) (v : TemplateValues) : Text :=
  if template.elem '%' then
    Placeholder.all.foldl (fun t p => Text.replaceAll p.text (p.value v) t) template
  else template

end SchemaLint
