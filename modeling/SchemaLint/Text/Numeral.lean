import SchemaLint.Text.Basic

/-!
Natural numbers as decimal numerals. Writing gives the shortest numeral;
reading also takes leading zeros and one plus sign, and has no upper bound of
its own: a caller that has one compares the value afterwards, so a number of
any length is either its exact value or refused. Hexadecimal digits are read in
either case.
-/

namespace SchemaLint.Text

/-- The decimal numeral of a number, without leading zeros. -/
def numeral (n : Nat) : Text := Nat.toDigits 10 n

/-- The value of a run of decimal digits. -/
def digitsValue (digits : Text) : Nat :=
  digits.foldl (fun value d => 10 * value + (d.toNat - '0'.toNat)) 0

/-- The text after a leading plus sign, or the whole text when there is none. -/
def dropPlus : Text → Text
  | '+' :: rest => rest
  | t => t

/-- Reads an optional plus sign and at least one ASCII digit, and nothing
else. -/
def number? (t : Text) : Option Nat :=
  let digits := dropPlus t
  if !digits.isEmpty && digits.all Char.isDigit then some (digitsValue digits) else none

/-- Reads a number that is at most `limit`. -/
def numberUpTo? (limit : Nat) (t : Text) : Option Nat :=
  (number? t).filter (· ≤ limit)

/-- The value of a hexadecimal digit of either case. -/
def hexDigit? (c : Char) : Option Nat :=
  if c.isDigit then some (c.toNat - '0'.toNat)
  else if 'a' ≤ c && c ≤ 'f' then some (c.toNat - 'a'.toNat + 10)
  else if 'A' ≤ c && c ≤ 'F' then some (c.toNat - 'A'.toNat + 10)
  else none

/-- The value of a run of hexadecimal digits. -/
def hexNumber? (digits : Text) : Option Nat :=
  digits.foldlM (fun value d => (hexDigit? d).map (16 * value + ·)) 0

/-- The greatest number of 32 bits. -/
def maxWord32 : Nat := 4294967295

/-- The greatest number of 64 bits. -/
def maxWord64 : Nat := 18446744073709551615

end SchemaLint.Text
