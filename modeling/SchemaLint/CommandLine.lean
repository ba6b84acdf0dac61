import SchemaLint.Compiler.Command

/-!
The command line: two operands, the configuration and the workspace, and a few
options in any order around them. Arguments are read from left to right, and the
first that cannot stand where it does decides the error; asking for the version
or for help ends the reading there.
-/

namespace SchemaLint

/-- A lint run as the command line asks for it. -/
structure LintRequest where
  /-- The file of the configuration. -/
  config : Path
  workspace : Path
  compiler : Text
  isVerbose : Bool
deriving Repr, DecidableEq

/-- What a command line asks for. -/
inductive Invocation where
  | lint (request : LintRequest)
  | version
  | help
deriving Repr, DecidableEq

/-- Why a command line cannot be read. -/
inductive UsageError where
  | unknownOption (option : Text)
  /-- An option that may stand once stands again. -/
  | repeatedOption (option : Text)
  /-- A value is attached to an option that takes none. -/
  | unwantedValue (option : Text)
  /-- No value follows an option that needs one. -/
  | missingValue (option : Text)
  | emptyOperand
  | extraOperand (operand : Text)
  | missingOperand
deriving Repr, DecidableEq

/-- The message of an error. -/
def UsageError.message : UsageError → Text
  | .unknownOption option => "unexpected argument '" ++ option ++ "' found"
  | .repeatedOption option => "the argument '" ++ option ++ "' cannot be used multiple times"
  | .unwantedValue option => "unexpected value for '" ++ option ++ "'"
  | .missingValue option => "a value is required for '" ++ option ++ "' but none was supplied"
  | .emptyOperand => "a path must not be empty"
  | .extraOperand operand => "unexpected argument '" ++ operand ++ "' found"
  | .missingOperand => "the arguments <CONFIG> and <WORKSPACE> are required"

namespace CommandLine

/-- An argument by its form. A single dash is an operand. -/
inductive Argument where
  /-- Two dashes alone: only operands follow. -/
  | endOfOptions
  /-- A long option, with the value attached to it by an equals sign. -/
  | long (name : Text) (value : Option Text)
  /-- A cluster of short options, which is not empty. -/
  | short (first : Char) (others : Text)
  | operand (t : Text)
deriving Repr, DecidableEq

/-- The form of an argument. -/
def Argument.ofText : Text → Argument
  | ['-', '-'] => .endOfOptions
  | '-' :: '-' :: rest => .long (Text.before '=' rest) (Text.after? '=' rest)
  | '-' :: first :: others => .short first others
  | t => .operand t

/-- What has been read so far. -/
structure Draft where
  operands : List Text := []
  isVerbose : Bool := false
  compiler : Option Text := none
deriving Repr, DecidableEq

/-- How reading goes on after an option: with more known, or not at all. -/
inductive Step where
  | further (d : Draft)
  | answer (i : Invocation)
deriving Repr, DecidableEq

namespace Draft

/-- The greatest number of operands. -/
def maxOperands : Nat := 2

/-- One more operand. -/
def withOperand (d : Draft) (operand : Text) : Except UsageError Draft :=
  if d.operands.length = maxOperands then .error (.extraOperand operand)
  else if operand = [] then .error .emptyOperand
  else .ok { d with operands := d.operands ++ [operand] }

/-- The compiler to run. -/
def withCompiler (d : Draft) (program : Text) : Except UsageError Draft :=
  if d.compiler.isSome then .error (.repeatedOption "--protoc")
  else .ok { d with compiler := some program }

/-- The switch for a detailed log. -/
def withVerbose (d : Draft) : Except UsageError Draft :=
  if d.isVerbose then .error (.repeatedOption "--verbose") else .ok { d with isVerbose := true }

/-- The request, when all arguments have been read. -/
def finish (d : Draft) : Except UsageError Invocation :=
  match d.operands with
  | [config, workspace] =>
    .ok (.lint ⟨⟨config⟩, ⟨workspace⟩, d.compiler.getD Command.defaultCompiler, d.isVerbose⟩)
  | _ => .error .missingOperand

/-- One short option. -/
def withShort (d : Draft) (letter : Char) : Except UsageError Step :=
  if letter = 'v' then d.withVerbose.map .further
  else if letter = 'V' then .ok (.answer .version)
  else if letter = 'h' then .ok (.answer .help)
  else .error (.unknownOption ['-', letter])

/-- A cluster of short options. -/
def withCluster (d : Draft) : Text → Except UsageError Step
  | [] => .ok (.further d)
  | letter :: rest =>
    match d.withShort letter with
    | .ok (.further d) => d.withCluster rest
    | other => other

/-- A long option that takes no value. -/
def withSwitch (d : Draft) (name : Text) : Except UsageError Step :=
  if name = "verbose" then d.withVerbose.map .further
  else if name = "version" then .ok (.answer .version)
  else if name = "help" then .ok (.answer .help)
  else .error (.unknownOption ("--" ++ name))

end Draft

/-- The names of the long options that take no value. -/
def switches : List Text := ["verbose", "version", "help"]

/-- The name of the long option that takes a value. -/
def compilerOption : Text := "protoc"

/-- Reads arguments from a draft on. -/
def readFrom (d : Draft) : List Text → Except UsageError Invocation
  | [] => d.finish
  | argument :: rest =>
    let onwards (step : Except UsageError Step) : Except UsageError Invocation :=
      match step with
      | .error e => .error e
      | .ok (.answer i) => .ok i
      | .ok (.further d) => readFrom d rest
    match Argument.ofText argument with
    | .endOfOptions =>
      match rest.foldlM Draft.withOperand d with
      | .ok d => d.finish
      | .error e => .error e
    | .operand t => onwards ((d.withOperand t).map .further)
    | .short first others => onwards (d.withCluster (first :: others))
    | .long name none =>
      if name = compilerOption then
        match rest with
        | [] => .error (.missingValue argument)
        | value :: rest =>
          match Argument.ofText value, d.withCompiler value with
          | .operand _, .ok d => readFrom d rest
          | .operand _, .error e => .error e
          | _, _ => .error (.missingValue argument)
      else onwards (d.withSwitch name)
    | .long name (some value) =>
      if name = compilerOption then onwards ((d.withCompiler value).map .further)
      else if switches.elem name then .error (.unwantedValue ("--" ++ name))
      else .error (.unknownOption ("--" ++ name))

/-- Reads the arguments of a command line. -/
def read (arguments : List Text) : Except UsageError Invocation := readFrom {} arguments

end CommandLine

end SchemaLint
