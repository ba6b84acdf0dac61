import SchemaLint.Run.Event

/-!
The log as lines on a terminal. Characters that would steer the terminal are
written as escapes, so a message that quotes the output of a tool cannot move
the cursor or hide text; line feeds and tabs stand for themselves.
-/

namespace SchemaLint

namespace Event

/-- A character as a log on a terminal shows it: one that would steer the
terminal is written as an escape, by its code. -/
def terminalChar (c : Char) : Text :=
  let n := c.toNat
  if [7, 8, 12, 27, 127].elem n then
    '\\' :: 'x' :: [Nat.digitChar (n / 16), Nat.digitChar (n % 16)]
  else if 128 ≤ n && n < 160 then
    '\\' :: 'u' :: '\x7b' :: Nat.toDigits 16 n ++ ['\x7d']
  else [c]

/-- The message of an event as a log on a terminal shows it. -/
def terminalMessage (e : Event) : Text := e.message.flatMap terminalChar

/-- An event as a line of a log on a terminal. -/
def terminalLine (e : Event) : Text := e.level.name ++ ' ' :: e.terminalMessage

end Event

end SchemaLint
