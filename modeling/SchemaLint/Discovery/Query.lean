import SchemaLint.Discovery.Resolver

/-!
Queries to one search. A search answers any number of queries one after the
other, and remembers the patterns that it has read and the log in between.
-/

namespace SchemaLint

/-- A question about the workspace of a configuration. -/
inductive Query where
  /-- The workspace as an absolute path. -/
  | root
  /-- A path as an absolute path. -/
  | absolute (p : Path)
  /-- Whether a path is excluded. -/
  | excluded (path : Text)
  /-- The schema files. -/
  | files
deriving Repr, DecidableEq

/-- The answer to a query. -/
inductive Answer where
  | path (p : Path)
  | verdict (isExcluded : Bool)
  | found (d : Discovery)
  | failed (reason : SystemError)
deriving Repr, DecidableEq

namespace Answer

/-- The answer that a result is. -/
def ofResult {α : Type} (answer : α → Answer) : Except SystemError α → Answer
  | .ok x => answer x
  | .error reason => .failed reason

end Answer

namespace Search

variable (engine : PatternEngine) (c : Config) (host : Host)

/-- Answers a query. -/
def answer : Query → StateM (Search engine) Answer
  | .root => return .ofResult .path (c.workspaceRoot host.here)
  | .absolute p => return .ofResult .path (c.makeAbsolute host.here p)
  | .excluded path => return .verdict (← isExcluded engine c.excludePaths path)
  | .files => return .ofResult .found (← resolve engine c host)

/-- Answers queries one after the other. -/
def answerAll : List Query → StateM (Search engine) (List Answer)
  | [] => return []
  | query :: rest => return (← answer engine c host query) :: (← answerAll rest)

end Search

end SchemaLint
