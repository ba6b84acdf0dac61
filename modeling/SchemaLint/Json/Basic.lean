import SchemaLint.Text.Basic
import SchemaLint.Binary64.Basic

/-!
JSON values. Numbers keep the difference between whole numbers of 64 bits and
floating-point numbers. The members of an object stand in the order in which
their keys first came, and a key that comes again replaces the value in its
place, so that keys of values read from text are distinct.
-/

namespace SchemaLint

/-- A JSON number: a whole number below `2 ^ 64`, a negative whole number
`-n` down to `-2 ^ 63`, or a floating-point number with its sign. -/
inductive JsonNumber where
  | natural (n : Nat)
  | negative (n : Nat)
  | float (isNegative : Bool) (magnitude : Binary64)
deriving Repr, DecidableEq

/-- A JSON value. -/
inductive Json where
  | null
  | bool (b : Bool)
  | number (n : JsonNumber)
  | string (t : Text)
  | array (items : List Json)
  | object (members : List (Text × Json))
deriving Repr, Inhabited

namespace Json

/-- The members of an object. -/
abbrev Members := List (Text × Json)

/-- The members with `key` set: in its place when it is there, at the end
otherwise. -/
def Members.set (key : Text) (value : Json) : Members → Members
  | [] => [(key, value)]
  | (k, v) :: rest => if k = key then (k, value) :: rest else (k, v) :: Members.set key value rest

/-- The value of a key. -/
def Members.get? (key : Text) : Members → Option Json
  | [] => none
  | (k, v) :: rest => if k = key then some v else Members.get? key rest

/-- The keys in order. -/
def Members.keys (members : Members) : List Text := members.map (·.1)

/-- The value of a key of an object. -/
def get? (key : Text) : Json → Option Json
  | .object members => Members.get? key members
  | _ => none

/-- The text of a string. -/
def text? : Json → Option Text
  | .string t => some t
  | _ => none

/-- The natural number that a value is. -/
def natural? : Json → Option Nat
  | .number (.natural n) => some n
  | _ => none

/-- The items of an array. -/
def items? : Json → Option (List Json)
  | .array items => some items
  | _ => none

/-- Setting a key decides its value and leaves the others. -/
theorem Members.get?_set (key other : Text) (value : Json) (members : Members) :
    Members.get? other (Members.set key value members) =
      if other = key then some value else Members.get? other members := by
  induction members with
  | nil =>
    by_cases h : other = key
    · simp [Members.set, Members.get?, h]
    · simp [Members.set, Members.get?, h, Ne.symm h]
  | cons m rest ih =>
    obtain ⟨k, v⟩ := m
    by_cases hk : k = key
    · subst hk
      by_cases h : other = k
      · simp [Members.set, Members.get?, h]
      · simp [Members.set, Members.get?, h, Ne.symm h]
    · by_cases h : k = other
      · subst h
        simp [Members.set, Members.get?, hk]
      · simp [Members.set, Members.get?, hk, h, ih]

end Json

end SchemaLint
