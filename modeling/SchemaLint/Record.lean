import SchemaLint.Template
import SchemaLint.Sha256
import SchemaLint.Text.Utf8

/-!
Records: one diagnostic each, as a tool reported it, with the message that its
kind's template gives. The fingerprint of a record is the digest of its
identity, a text that joins what makes two reports the same issue; the raw line
is not part of it, and neither is the position of a file that was not found.
-/

namespace SchemaLint

/-- One diagnostic that a tool reported. Line and column count from 1, and are 1
where the tool gave none. -/
structure Record where
  kind : Kind
  origin : Origin
  /-- The line as the tool printed it. -/
  raw : Text
  /-- The description of the issue. -/
  message : Text
  /-- The file as the tool named it. -/
  file : Text
  line : Nat
  column : Nat
  context : Option Text
deriving Repr, DecidableEq

namespace Record

/-- A record, its message filled in from the template of its kind. -/
def make (kind : Kind) (origin : Origin) (raw file : Text) (line column : Nat)
    (context : Option Text) : Record :=
  { kind, origin, raw, file, line, column, context,
    message := render kind.profile.template ⟨kind, raw, file, line, column, context⟩ }

/-- Whether the record is kept out of the issues. -/
def isSuppressed (r : Record) : Bool := r.kind.isSuppressed

/-- The version of the rule that makes identities. -/
def identityVersion : Text := "v1"

/-- The parts of a record's identity, in order. -/
def identityParts (r : Record) : List Text :=
  [identityVersion, r.kind.name, r.message, r.file] ++
    (if r.isSuppressed then [] else [Text.numeral r.line, Text.numeral r.column]) ++
    [r.context.getD []]

/-- The text that identifies the issue a record reports. -/
def identity (r : Record) : Text := Text.join "::" r.identityParts

/-- The digest of the identity, in hexadecimal. -/
def fingerprint (r : Record) : Text := Sha256.hex (Sha256.digest (Text.utf8 r.identity))

/-- File, line and column between colons. -/
def locationText (r : Record) : Text :=
  r.file ++ ":" ++ Text.numeral r.line ++ ":" ++ Text.numeral r.column

/-- What a record is called on display. -/
def label (r : Record) : Text :=
  match r.kind with
  | .style _ => "Issue"
  | .compile _ => "Error"

/-- A record on one line. -/
def display (r : Record) : Text :=
  let context : Text := match r.context with
    | some c => "context='" ++ c ++ "', "
    | none => []
  r.label ++ "(location=" ++ r.locationText ++ ", " ++ context ++ "message='" ++ r.message ++ "')"

/-- Making a record keeps what it is made from. -/
@[simp] theorem make_line (kind : Kind) (origin : Origin) (raw file : Text) (line column : Nat)
    (context : Option Text) : (make kind origin raw file line column context).line = line := rfl

end Record

end SchemaLint
