import SchemaLint.Text.Numeral

/-!
Finished processes: how one ended, and what it wrote to its two streams. The
way it ended comes as a wait status, a number that tells an exit code, a fatal
signal or something else apart by its low bits.
-/

namespace SchemaLint

/-- A wait status as the system gives it: a number of 32 bits with a sign. -/
structure WaitStatus where
  raw : Int
deriving Repr, DecidableEq

namespace WaitStatus

/-- The status of an exit with a code. -/
def ofCode (code : Nat) : WaitStatus := ⟨code % 256 * 256⟩

/-- The status of an end by a signal. -/
def ofSignal (signal : Nat) : WaitStatus := ⟨signal % 128⟩

/-- Whether the process ended as it should: by an exit with code zero. -/
def isSuccess (s : WaitStatus) : Bool := s.raw == 0

/-- The names of the signals, by their numbers from 1 on. -/
def signalNames : List Text :=
  ["SIGHUP", "SIGINT", "SIGQUIT", "SIGILL", "SIGTRAP", "SIGABRT", "SIGBUS", "SIGFPE", "SIGKILL",
   "SIGUSR1", "SIGSEGV", "SIGUSR2", "SIGPIPE", "SIGALRM", "SIGTERM", "SIGSTKFLT", "SIGCHLD",
   "SIGCONT", "SIGSTOP", "SIGTSTP", "SIGTTIN", "SIGTTOU", "SIGURG", "SIGXCPU", "SIGXFSZ",
   "SIGVTALRM", "SIGPROF", "SIGWINCH", "SIGIO", "SIGPWR", "SIGSYS"]

/-- A signal by number, with its name if it has one. -/
def signalText (signal : Nat) : Text :=
  match signalNames[signal - 1]? with
  | some name =>
    if signal = 0 then Text.numeral signal else Text.numeral signal ++ " (" ++ name ++ ")"
  | none => Text.numeral signal

/-- The bits of a status as a natural number. -/
def bits (s : WaitStatus) : Nat := (s.raw % 4294967296).toNat

/-- The number of a status in decimal. -/
def numeral (s : WaitStatus) : Text :=
  (if s.raw < 0 then ['-'] else []) ++ Text.numeral s.raw.natAbs

/-- The status in words. -/
def text (s : WaitStatus) : Text :=
  let low := s.bits % 128
  let high := s.bits / 256 % 256
  if low = 0 then "exit status: " ++ Text.numeral high
  else if low ≠ 127 then
    "signal: " ++ signalText low ++ (if s.bits / 128 % 2 = 1 then " (core dumped)" else "")
  else if s.bits % 256 = 127 then "stopped (not terminated) by signal: " ++ signalText high
  else if s.bits = 65535 then "continued (WIFCONTINUED)"
  else "unrecognised wait status: " ++ s.numeral ++ " 0x" ++ Nat.toDigits 16 s.bits

end WaitStatus

/-- A process that has ended, with the octets it wrote. -/
structure FinishedProcess where
  status : WaitStatus
  stdout : List UInt8
  stderr : List UInt8
deriving Repr, DecidableEq

end SchemaLint
