import SchemaLint.Text.Basic

/-!
The failures that the operating system reports, each with its message.
-/

namespace SchemaLint

/-- Why the operating system refused a request. -/
inductive SystemError where
  | notFound
  | permissionDenied
  | notDirectory
  | isDirectory
  | nameTooLong
  | tooManyLinks
  /-- A file that should hold text is not well-formed UTF-8. -/
  | notText
  /-- There is no path to make absolute. -/
  | emptyPath
  /-- A path holds the character that ends paths inside the system. -/
  | nullInPath
  /-- A program name or argument holds the character that ends them. -/
  | nullInArgument
  | diskFull
deriving Repr, DecidableEq

/-- The message of a failure. Those that have a number in the system show it. -/
def SystemError.message : SystemError → Text
  | .notFound => "No such file or directory (os error 2)"
  | .permissionDenied => "Permission denied (os error 13)"
  | .notDirectory => "Not a directory (os error 20)"
  | .isDirectory => "Is a directory (os error 21)"
  | .nameTooLong => "File name too long (os error 36)"
  | .tooManyLinks => "Too many levels of symbolic links (os error 40)"
  | .notText => "stream did not contain valid UTF-8"
  | .emptyPath => "cannot make an empty path absolute"
  | .nullInPath => "file name contained an unexpected NUL byte"
  | .nullInArgument => "nul byte found in provided data"
  | .diskFull => "disk full"

end SchemaLint
