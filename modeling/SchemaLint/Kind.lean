import SchemaLint.Text.Basic

/-!
The kinds of diagnostics and their fixed attributes: seven style warnings and
six compile errors. `Kind.profile` is the one table of names, severities,
categories and message templates; `marker` is the phrase by which a message is
recognised, tried in the order of `StyleRule.all` and `CompileError.all`.
-/

namespace SchemaLint

/-- How serious a diagnostic is, the least first. -/
inductive Severity where
  | minor
  | major
  | critical
deriving Repr, DecidableEq

/-- The name of a severity. -/
def Severity.name : Severity → Text
  | .minor => "minor"
  | .major => "major"
  | .critical => "critical"

/-- The place of a severity in their order. -/
def Severity.rank : Severity → Nat
  | .minor => 0
  | .major => 1
  | .critical => 2

/-- What an issue puts at risk. -/
inductive Category where
  | compatibility
  | style
  | bugRisk
deriving Repr, DecidableEq

/-- The name of a category. -/
def Category.name : Category → Text
  | .compatibility => "Compatibility"
  | .style => "Style"
  | .bugRisk => "Bug Risk"

/-- A warning about names or about a missing syntax declaration. -/
inductive StyleRule where
  | messageCase
  | fieldCase
  | enumTypeCase
  | enumValueCase
  | serviceCase
  | rpcMethodCase
  | syntaxUnspecified
deriving Repr, DecidableEq

/-- An error of the schema compiler. -/
inductive CompileError where
  | fileNotFound
  | importUnresolved
  | symbolNotDefined
  | missingFieldNumber
  | unexpectedToken
  | unexpectedEndOfInput
deriving Repr, DecidableEq

/-- The kind of a diagnostic. -/
inductive Kind where
  | style (rule : StyleRule)
  | compile (error : CompileError)
deriving Repr, DecidableEq

/-- Which tool printed a diagnostic line. -/
inductive Origin where
  /-- A style issue printed by the lint plugin. -/
  | plugin
  /-- An error printed by the compiler. -/
  | compiler
  /-- A warning that the compiler printed about its own input. -/
  | compilerWarning
deriving Repr, DecidableEq

/-- The fixed attributes of a kind. -/
structure Profile where
  /-- The stable name, part of every fingerprint. -/
  name : Text
  /-- The name of the check in issues. -/
  checkName : Text
  severity : Severity
  categories : List Category
  /-- The message with placeholders. -/
  template : Text
  /-- How much work a repair is, in points. -/
  remediation : Nat
deriving Repr

namespace StyleRule

/-- All style warnings, in the order in which their markers are tried. -/
def all : List StyleRule :=
  [.messageCase, .fieldCase, .enumTypeCase, .enumValueCase, .serviceCase, .rpcMethodCase,
   .syntaxUnspecified]

/-- The phrase of a message in lower case by which a warning is recognised. -/
def marker : StyleRule → Text
  | .messageCase => "message names"
  | .fieldCase => "field names"
  | .enumTypeCase => "enum type names"
  | .enumValueCase => "enum value names"
  | .serviceCase => "service names"
  | .rpcMethodCase => "method names"
  | .syntaxUnspecified => "no syntax specified"

/-- The attributes of a style warning. -/
def profile : StyleRule → Profile
  | .messageCase =>
    ⟨"message-case", "Style/Message Name Case", .major, [.compatibility, .style],
      "Use CamelCase (with an initial capital) for message names.", 50000⟩
  | .fieldCase =>
    ⟨"field-case", "Style/Field Name Case", .minor, [.compatibility, .style],
      "Use underscore_separated_names for field names.", 50000⟩
  | .enumTypeCase =>
    ⟨"enum-type-case", "Style/Enum Type Case", .major, [.compatibility, .style],
      "Use CamelCase (with an initial capital) for enum type names.", 50000⟩
  | .enumValueCase =>
    ⟨"enum-value-case", "Style/Enum Value Case", .minor, [.compatibility, .style],
      "Use CAPITALS_WITH_UNDERSCORES for enum value names.", 50000⟩
  | .serviceCase =>
    ⟨"service-case", "Style/Service Name Case", .major, [.compatibility, .style],
      "Use CamelCase (with an initial capital) for service names.", 50000⟩
  | .rpcMethodCase =>
    ⟨"rpc-method-case", "Style/RPC Method Case", .minor, [.compatibility, .style],
      "Use CamelCase (with an initial capital) for RPC method names.", 50000⟩
  | .syntaxUnspecified =>
    ⟨"syntax-unspecified", "Compatibility/Syntax Unspecified", .minor,
      [.compatibility, .bugRisk], "No syntax specified for %file%, defaulting to proto2.", 50000⟩

end StyleRule

namespace CompileError

/-- All compile errors, in the order in which their markers are tried. -/
def all : List CompileError :=
  [.fileNotFound, .importUnresolved, .symbolNotDefined, .missingFieldNumber, .unexpectedToken,
   .unexpectedEndOfInput]

/-- The phrase of a message in lower case by which an error is recognised. -/
def marker : CompileError → Text
  | .fileNotFound => "file not found"
  | .importUnresolved => "was not found or had errors"
  | .symbolNotDefined => "is not defined"
  | .missingFieldNumber => "missing field number"
  | .unexpectedToken => "expected"
  | .unexpectedEndOfInput => "reached end of input"

/-- The attributes of a compile error. -/
def profile : CompileError → Profile
  | .fileNotFound =>
    ⟨"file-not-found", "Bug Risk/File Not Found", .critical, [.bugRisk],
      "File not found: %file%.", 70000⟩
  | .importUnresolved =>
    ⟨"import-unresolved", "Bug Risk/Import Unresolved", .critical, [.bugRisk],
      "Import was not found or had errors: %context%.", 70000⟩
  | .symbolNotDefined =>
    ⟨"symbol-not-defined", "Bug Risk/Symbol Undefined", .critical, [.bugRisk],
      "Symbol \"%context%\" was not defined.", 70000⟩
  | .missingFieldNumber =>
    ⟨"missing-field-number", "Bug Risk/Missing Field Number", .critical, [.bugRisk],
      "Missing field number.", 50000⟩
  | .unexpectedToken =>
    ⟨"unexpected-token", "Bug Risk/Unexpected Token", .critical, [.bugRisk],
      "Expected token: \"%context%\".", 50000⟩
  | .unexpectedEndOfInput =>
    ⟨"unexpected-end-of-input", "Bug Risk/Unexpected End of Input", .critical, [.bugRisk],
      "Unexpected end of input, missing '\x7d'.", 50000⟩

end CompileError

namespace Kind

/-- Every kind, the style warnings first. This is also the order of the kinds. -/
def all : List Kind := StyleRule.all.map .style ++ CompileError.all.map .compile

/-- The attributes of a kind. -/
def profile : Kind → Profile
  | .style rule => rule.profile
  | .compile error => error.profile

/-- The phrase by which a kind is recognised. -/
def marker : Kind → Text
  | .style rule => rule.marker
  | .compile error => error.marker

/-- The stable name of a kind. -/
def name (k : Kind) : Text := k.profile.name

/-- Whether records of a kind are kept out of the issues: a file that was not
found is no place to report at. -/
def isSuppressed (k : Kind) : Bool := k == .compile .fileNotFound

/-- The kind with a given name. -/
def ofName? (name : Text) : Option Kind := all.find? fun k => k.name == name

/-- The place of a kind in their order. -/
def rank (k : Kind) : Nat := all.idxOf k

/-- The list of all kinds is complete. -/
theorem mem_all (k : Kind) : k ∈ all := by
  cases k with
  | style rule => cases rule <;> decide
  | compile error => cases error <;> decide

/-- Kinds are told apart by their names. -/
theorem ofName?_name (k : Kind) : ofName? k.name = some k := by
  cases k with
  | style rule => cases rule <;> decide
  | compile error => cases error <;> decide

end Kind

end SchemaLint
