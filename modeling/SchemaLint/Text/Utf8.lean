import SchemaLint.Text.Basic

/-!
UTF-8 in both directions. Reading goes octet by octet through a machine whose
state says what the character begun so far still needs; an octet that cannot
continue it ends the ill-formed part and is looked at again as a first octet.
So each ill-formed part is as long as the beginning of a character can be, and
a line feed is never swallowed by an unfinished character.

The scan reports an ill-formed part as `none`. The forgiving reading puts the
replacement character there, the strict one refuses the whole.
-/

namespace SchemaLint.Text

/-- The octets of a text. -/
def utf8 (t : Text) : List UInt8 := t.flatMap String.utf8EncodeChar

namespace Utf8

/-- A character whose first octets have been read: the bits so far, the number
of octets it still needs beyond the next, and the range of the next. -/
structure Pending where
  bits : Nat
  more : Nat
  low : UInt8
  high : UInt8
deriving Repr, DecidableEq

/-- Where the machine stands: between two characters, or inside one. -/
abbrev State := Option Pending

/-- What a scan finds: a character, or an ill-formed part. -/
abbrev Found := Option Char

/-- The step from between two characters. -/
def first (b : UInt8) : List Found × State :=
  let n := b.toNat
  if b < 0x80 then ([some (Char.ofNat n)], none)
  else if b < 0xC2 then ([none], none)
  else if b < 0xE0 then ([], some ⟨n - 0xC0, 0, 0x80, 0xBF⟩)
  else if b == 0xE0 then ([], some ⟨0, 1, 0xA0, 0xBF⟩)
  else if b == 0xED then ([], some ⟨0xD, 1, 0x80, 0x9F⟩)
  else if b < 0xF0 then ([], some ⟨n - 0xE0, 1, 0x80, 0xBF⟩)
  else if b == 0xF0 then ([], some ⟨0, 2, 0x90, 0xBF⟩)
  else if b < 0xF4 then ([], some ⟨n - 0xF0, 2, 0x80, 0xBF⟩)
  else if b == 0xF4 then ([], some ⟨4, 2, 0x80, 0x8F⟩)
  else ([none], none)

/-- The step inside a character. An octet out of range closes the ill-formed
part before it and starts anew. -/
def next (p : Pending) (b : UInt8) : List Found × State :=
  if p.low ≤ b && b ≤ p.high then
    let bits := p.bits * 64 + (b.toNat - 0x80)
    match p.more with
    | 0 => ([some (Char.ofNat bits)], none)
    | more + 1 => ([], some ⟨bits, more, 0x80, 0xBF⟩)
  else
    let (found, state) := first b
    (none :: found, state)

/-- One octet: what it completes, and the state after it. -/
def step : State → UInt8 → List Found × State
  | none, b => first b
  | some p, b => next p b

/-- What is left when the octets end: an unfinished character is ill-formed. -/
def finish : State → List Found
  | none => []
  | some _ => [none]

/-- The characters and ill-formed parts of the octets, from a given state. -/
def scanFrom : State → List UInt8 → List Found
  | state, [] => finish state
  | state, b :: bs => (step state b).1 ++ scanFrom (step state b).2 bs

/-- The characters and ill-formed parts of the octets. -/
def scan (bytes : List UInt8) : List Found := scanFrom none bytes

/-- The character that stands for an ill-formed part. -/
def replacement : Char := Char.ofNat 0xFFFD

/-- Reads octets with a replacement character for each ill-formed part. -/
def decodeLossy (bytes : List UInt8) : Text :=
  (scan bytes).map fun found => found.getD replacement

/-- Reads octets that are well formed as a whole. -/
def decode? (bytes : List UInt8) : Option Text := (scan bytes).mapM id

end Utf8

end SchemaLint.Text
