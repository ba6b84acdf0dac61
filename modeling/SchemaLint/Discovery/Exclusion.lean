import SchemaLint.Pattern.Engine
import SchemaLint.Run.Event

/-!
Excluding paths. An entry excludes a path that it equals, that begins with it,
or, if it is a pattern, in which the match found begins where the path does.
Equality with any entry decides before the entries are taken one by one.

Patterns are compiled once: a search remembers what became of an entry, and notes
only the first time that an entry is not a pattern. `excludes` says the same
without memory and log.
-/

namespace SchemaLint

/-- What became of an entry, for each entry met so far, and the log. -/
structure Search (engine : PatternEngine) where
  patterns : List (Text × Option engine.Compiled) := []
  log : List Event := []

namespace Search

variable {engine : PatternEngine}

/-- Notes an event. -/
def note (e : Event) : StateM (Search engine) Unit :=
  modify fun s => { s with log := s.log ++ [e] }

/-- Remembers what became of an entry. -/
def remember (entry : Text) (found : Option engine.Compiled) : StateM (Search engine) Unit :=
  modify fun s => { s with patterns := (entry, found) :: s.patterns }

variable (engine)

/-- The pattern that an entry is, from memory or by compiling it. -/
def pattern? (entry : Text) : StateM (Search engine) (Option engine.Compiled) := do
  match (← get).patterns.lookup entry with
  | some known => return known
  | none =>
    match engine.compile entry with
    | .ok p =>
      remember entry (some p)
      return some p
    | .error reason =>
      remember entry none
      note (.notAPattern entry reason)
      return none

/-- Whether an entry excludes a path by its beginning or as a pattern. -/
def matchesEntry (path entry : Text) : StateM (Search engine) Bool := do
  if Text.beginsWith entry path then return true
  match ← pattern? engine entry with
  | none => return false
  | some p =>
    if engine.find p path = some 0 then
      note (.excludedBy path entry)
      return true
    return false

/-- Whether one of the entries excludes a path, the first ones first. -/
def matchesAny (path : Text) : List Text → StateM (Search engine) Bool
  | [] => return false
  | entry :: rest => do
    if ← matchesEntry engine path entry then return true
    matchesAny path rest

/-- Whether a path is excluded. -/
def isExcluded (entries : List Text) (path : Text) : StateM (Search engine) Bool :=
  if entries.elem path then return true else matchesAny engine path entries

end Search

/-- Whether an entry excludes a path: the path begins with it, or it is a
pattern, and the match found in the path begins at its start. -/
def excludes (engine : PatternEngine) (entry path : Text) : Bool :=
  Text.beginsWith entry path ||
    match engine.compile entry with
    | .ok p => engine.find p path = some 0
    | .error _ => false

end SchemaLint
