import SchemaLint.Text.Basic

/-!
Blank characters: the characters of the Unicode property `White_Space`, and the
operations on texts that go by it. A line is blank when all of its characters
are; the words of a text are its longest runs without one.
-/

namespace SchemaLint.Text

/-- The blocks of consecutive `White_Space` characters, first and last. -/
def blankRanges : List (Nat × Nat) :=
  [(0x09, 0x0D), (0x20, 0x20), (0x85, 0x85), (0xA0, 0xA0), (0x1680, 0x1680),
   (0x2000, 0x200A), (0x2028, 0x2029), (0x202F, 0x202F), (0x205F, 0x205F),
   (0x3000, 0x3000)]

/-- Whether a character is `White_Space`. The zero-width space and the
information separators are not. -/
def isBlankChar (c : Char) : Bool :=
  blankRanges.any fun range => range.1 ≤ c.toNat && c.toNat ≤ range.2

/-- Whether a text holds nothing but blank characters. -/
def isBlank (t : Text) : Bool := t.all isBlankChar

/-- The text without the blank characters at its two ends. -/
def trim (t : Text) : Text := trimBy isBlankChar t

/-- The longest runs without a blank character, from left to right. -/
def words (t : Text) : List Text :=
  (t.splitOnP isBlankChar).filter fun word => !word.isEmpty

end SchemaLint.Text
