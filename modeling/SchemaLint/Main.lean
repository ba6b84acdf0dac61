import SchemaLint.FileTree.Description
import SchemaLint.Json.Reader
import SchemaLint.Pattern.Dialect
import SchemaLint.Run.Terminal
import SchemaLint.Session

/-!
The program. Its arguments are those of the command line; the host that it works
on comes as one JSON object on standard input, with the current directory under
`here`, the files under `tree` and the search path under `searchPath`. Issues go to
standard output, the log and complaints to standard error.
-/

open SchemaLint in
/-- Runs a session and hands out what it left behind. -/
def main (arguments : List String) : IO UInt32 := do
  let description ← (← IO.getStdin).readToEnd
  match (Json.read? description.toList).bind Host.ofJson? with
  | none =>
    IO.eprintln "error: standard input does not describe a host"
    return 2
  | some host =>
    let session := Session.run (arguments.map String.toList) Pattern.dialect host
    for e in session.log do
      IO.eprintln (String.ofList e.terminalLine)
    (← IO.getStdout).write ⟨session.stdout.toArray⟩
    match session.complaint with
    | some complaint => IO.eprintln (String.ofList ("error: " ++ complaint))
    | none => pure ()
    return UInt32.ofNat session.exitCode
