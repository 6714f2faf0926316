/-!
What commands need of the world around them: environment variables, files, the standard input and
the current directory. A command is written for every monad that offers these, so that one
definition runs on a real file system and on one in memory.
-/

namespace BracketQuery.CommandLine

/-- Why a file could not be used. -/
inductive FileError where
  | notFound
  | permissionDenied
  | alreadyExists
  | notADirectory
  | isADirectory
  | nameTooLong
  | notText
  | other (reason : String) (code : Nat)
  deriving DecidableEq, Repr

/-- The wording of an error. -/
def FileError.message : FileError → String
  | notFound => "No such file or directory (os error 2)"
  | permissionDenied => "Permission denied (os error 13)"
  | alreadyExists => "File exists (os error 17)"
  | notADirectory => "Not a directory (os error 20)"
  | isADirectory => "Is a directory (os error 21)"
  | nameTooLong => "File name too long (os error 36)"
  | notText => "stream did not contain valid UTF-8"
  | other reason code => reason ++ " (os error " ++ toString code ++ ")"

/-- The effects of commands. Paths may be relative to the current directory. -/
structure Host (m : Type → Type) where
  environment : String → m (Option String)
  currentDirectory : m String
  isFile : String → m Bool
  isThere : String → m Bool
  read : String → m (Except FileError String)
  readInput : m (Except FileError String)
  /-- Make a directory and those that hold it, as far as they are missing. -/
  makeDirectory : String → m (Except FileError Unit)
  write : String → String → m (Except FileError Unit)

end BracketQuery.CommandLine
