import SchemaLint.Json.Basic
import SchemaLint.Text.Numeral

/-!
The tokens of JSON text: the six marks, the three words, strings and numbers,
with white space between them. The grammar of the tokens is strict: no leading
zeros, no bare control characters in strings, surrogates only in pairs.

A whole number that fits into 64 bits is exact. Any other number is read as a
floating-point number in two steps: as many leading digits as fit into 64 bits
make a whole number, and this is multiplied or divided by a power of ten, each
step rounded. A number that leaves the finite range is refused.
-/

namespace SchemaLint.Json

/-- A token of JSON text. -/
inductive Token where
  | openArray
  | closeArray
  | openObject
  | closeObject
  | comma
  | colon
  | null
  | bool (b : Bool)
  | number (n : JsonNumber)
  | string (t : Text)
deriving Repr

/-! ## Strings -/

/-- A character of a string body, or a 16-bit unit given by its number. -/
inductive Unit16 where
  | char (c : Char)
  | code (n : Nat)
deriving Repr, DecidableEq

/-- The character of a short escape. -/
def shortEscape? (c : Char) : Option Char :=
  match c with
  | '"' => some '"'
  | '\\' => some '\\'
  | '/' => some '/'
  | 'b' => some (Char.ofNat 8)
  | 'f' => some (Char.ofNat 12)
  | 'n' => some '\n'
  | 'r' => some '\r'
  | 't' => some '\t'
  | _ => none

/-- A unit before the units of the rest of a string. -/
def unitThen (unit : Unit16) (rest : Option (List Unit16 × Text)) :
    Option (List Unit16 × Text) :=
  rest.map fun r => (unit :: r.1, r.2)

/-- The units of a string up to its closing quote, and the text after it. -/
def stringUnits : Text → Option (List Unit16 × Text)
  | '"' :: rest => some ([], rest)
  | '\\' :: 'u' :: a :: b :: c :: d :: rest =>
    (Text.hexNumber? [a, b, c, d]).bind fun n => unitThen (.code n) (stringUnits rest)
  | '\\' :: e :: rest => (shortEscape? e).bind fun c => unitThen (.char c) (stringUnits rest)
  | c :: rest => if c.toNat < 32 then none else unitThen (.char c) (stringUnits rest)
  | [] => none

/-- Whether a unit is the first of a surrogate pair. -/
def isHighSurrogate (n : Nat) : Bool := 0xD800 ≤ n && n < 0xDC00

/-- Whether a unit is the second of a surrogate pair. -/
def isLowSurrogate (n : Nat) : Bool := 0xDC00 ≤ n && n < 0xE000

/-- The characters of the units. Two surrogates make one character, and a
surrogate without its partner none. -/
def joinUnits : List Unit16 → Option Text
  | [] => some []
  | .char c :: rest => (joinUnits rest).map (c :: ·)
  | [.code n] =>
    if isHighSurrogate n || isLowSurrogate n then none else some [Char.ofNat n]
  | .code n :: next :: rest =>
    if isHighSurrogate n then
      match next with
      | .code m =>
        if isLowSurrogate m then
          (joinUnits rest).map (Char.ofNat (0x10000 + (n - 0xD800) * 1024 + (m - 0xDC00)) :: ·)
        else none
      | .char _ => none
    else if isLowSurrogate n then none
    else (joinUnits (next :: rest)).map (Char.ofNat n :: ·)

/-- Reads a string after its opening quote. -/
def readString (t : Text) : Option (Text × Text) :=
  (stringUnits t).bind fun r => (joinUnits r.1).map fun text => (text, r.2)

/-! ## Numbers -/

/-- The number nearest to `10 ^ k`, for `k` up to 308. -/
def powerOfTen (k : Nat) : Binary64 := (Binary64.ofNat? (Nat.pow 10 k)).getD Binary64.zero

/-- The greatest `k` for which `10 ^ k` is finite. -/
def maxPower : Nat := 308

/-- Divides by a power of ten, in steps of at most `10 ^ 308`, until nothing is
left of the number or of the power. -/
def scaleDown (x : Binary64) (k : Nat) : Option Binary64 :=
  if k ≤ maxPower then x.div? (powerOfTen k)
  else if x.isZero then some x
  else
    match x.div? (powerOfTen (min k maxPower)) with
    | some y => scaleDown y (k - maxPower)
    | none => none
termination_by k
decreasing_by simp only [maxPower] at *; omega

/-- A whole number times a power of ten. -/
def scale? (significand : Nat) (exponent : Int) : Option Binary64 :=
  (Binary64.ofNat? significand).bind fun x =>
    if exponent < 0 then scaleDown x exponent.natAbs
    else if exponent ≤ maxPower then x.mul? (powerOfTen exponent.natAbs)
    else if x.isZero then some x
    else none

/-- Appends digits to a number while it stays within 64 bits, and counts them. -/
def absorbDigits (significand : Nat) : Text → Nat × Nat
  | [] => (significand, 0)
  | d :: ds =>
    let longer := 10 * significand + (d.toNat - '0'.toNat)
    if longer ≤ Text.maxWord64 then
      let (value, count) := absorbDigits longer ds
      (value, count + 1)
    else (significand, 0)

/-- The parts of a number as written: sign, digits before and after the point,
and the exponent. -/
structure NumberParts where
  isNegative : Bool
  whole : Text
  fraction : Text
  exponent : Option Int
deriving Repr, DecidableEq

/-- The greatest `n` for which `-n` is a whole number of 64 bits. -/
def maxNegative : Nat := 9223372036854775808

/-- A whole number of 64 bits. Minus zero is the floating-point zero with a
sign, for whole numbers have none. -/
def wholeNumber (isNegative : Bool) (n : Nat) : Option JsonNumber :=
  if !isNegative then some (.natural n)
  else if n == 0 || n > maxNegative then
    (Binary64.ofNat? n).map (.float true)
  else some (.negative n)

/-- The value of a number. -/
def NumberParts.value? (p : NumberParts) : Option JsonNumber :=
  let (front, count) := absorbDigits 0 p.whole
  let left := p.whole.length - count
  if p.fraction.isEmpty && p.exponent.isNone && left == 0 then wholeNumber p.isNegative front
  else
    let (significand, places) := absorbDigits front p.fraction
    let exponent := (left : Int) - (places : Int) + p.exponent.getD 0
    (scale? significand exponent).map (.float p.isNegative)

/-- Reads a decimal point and at least one digit, if there is a point. -/
def readFraction : Text → Option (Text × Text)
  | '.' :: rest =>
    let digits := rest.takeWhile Char.isDigit
    if digits.isEmpty then none else some (digits, rest.dropWhile Char.isDigit)
  | t => some ([], t)

/-- Reads the digits of an exponent after its mark and sign. -/
def readExponentDigits (sign : Int) (t : Text) : Option (Option Int × Text) :=
  let digits := t.takeWhile Char.isDigit
  if digits.isEmpty then none
  else some (some (sign * (Text.digitsValue digits : Int)), t.dropWhile Char.isDigit)

/-- Reads an exponent, if there is one. -/
def readExponent : Text → Option (Option Int × Text)
  | c :: rest =>
    if c = 'e' || c = 'E' then
      match rest with
      | '+' :: digits => readExponentDigits 1 digits
      | '-' :: digits => readExponentDigits (-1) digits
      | digits => readExponentDigits 1 digits
    else some (none, c :: rest)
  | [] => some (none, [])

/-- Whether digits may stand before the point: at least one, and no zero in
front of others. -/
def isWholePart : Text → Bool
  | [] => false
  | [_] => true
  | d :: _ => d != '0'

/-- Reads a number after its sign. -/
def readUnsigned (isNegative : Bool) (t : Text) : Option (JsonNumber × Text) := do
  let whole := t.takeWhile Char.isDigit
  guard (isWholePart whole)
  let (fraction, t) ← readFraction (t.dropWhile Char.isDigit)
  let (exponent, t) ← readExponent t
  let value ← NumberParts.value? ⟨isNegative, whole, fraction, exponent⟩
  return (value, t)

/-- Reads a number. -/
def readNumber : Text → Option (JsonNumber × Text)
  | '-' :: rest => readUnsigned true rest
  | t => readUnsigned false t

/-! ## The sequence of tokens -/

/-- The characters that may stand between tokens. -/
def isSpace (c : Char) : Bool := c = ' ' || c = '\n' || c = '\r' || c = '\t'

/-- The words and their tokens. -/
def wordTokens : List (Text × Token) :=
  [("null", .null), ("true", .bool true), ("false", .bool false)]

/-- Reads the token at the start of a text that does not start with white
space. -/
def readToken (t : Text) : Option (Token × Text) :=
  match t with
  | '[' :: rest => some (.openArray, rest)
  | ']' :: rest => some (.closeArray, rest)
  | '\x7b' :: rest => some (.openObject, rest)
  | '\x7d' :: rest => some (.closeObject, rest)
  | ',' :: rest => some (.comma, rest)
  | ':' :: rest => some (.colon, rest)
  | '"' :: rest => (readString rest).map fun r => (.string r.1, r.2)
  | _ =>
    match wordTokens.find? (fun word => word.1.isPrefixOf t) with
    | some word => some (word.2, t.drop word.1.length)
    | none => (readNumber t).map fun r => (.number r.1, r.2)

/-- The tokens of a text of which the first `skip` characters belong to a token
already read. -/
def tokensFrom : Nat → Text → Option (List Token)
  | _, [] => some []
  | skip + 1, _ :: rest => tokensFrom skip rest
  | 0, c :: rest =>
    if isSpace c then tokensFrom 0 rest
    else
      (readToken (c :: rest)).bind fun read =>
        (tokensFrom (rest.length - read.2.length) rest).map (read.1 :: ·)

/-- The tokens of a text, or `none` when it does not split into tokens. -/
def tokens? (t : Text) : Option (List Token) := tokensFrom 0 t

end SchemaLint.Json
