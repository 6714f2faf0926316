import BracketQuery.CommandLine.Run

/-!
The program: it carries out its command line on the file system it finds.
-/

namespace BracketQuery.CommandLine

/-- The error of a file that an exception reports. -/
def FileError.ofException : IO.Error → FileError
  | .noFileOrDirectory .. => .notFound
  | .permissionDenied .. => .permissionDenied
  | .alreadyExists .. => .alreadyExists
  | .inappropriateType _ code reason =>
    if code = 20 then .notADirectory
    else if code = 21 then .isADirectory
    else .other reason code.toNat
  | .invalidArgument _ code reason =>
    if code = 36 then .nameTooLong else .other reason code.toNat
  | .otherError code reason => .other reason code.toNat
  | _ => .notText

/-- The outcome of an effect that may fail. -/
def attempt {α : Type} (effect : IO α) : IO (Except FileError α) := do
  match ← effect.toBaseIO with
  | .ok value => pure (.ok value)
  | .error error => pure (.error (FileError.ofException error))

/-- All lines of a stream, joined. -/
partial def readAllLines (stream : IO.FS.Stream) (before : String) : IO String := do
  let line ← stream.getLine
  if line.isEmpty then pure before else readAllLines stream (before ++ line)

/-- The effects of commands on the world. -/
def Host.ofSystem : Host IO where
  environment name := IO.getEnv name
  currentDirectory := return (← IO.currentDir).toString
  isFile path := return match ← attempt (IO.FS.readFile path) with
    | .error .isADirectory | .error .notFound | .error .notADirectory => false
    | _ => true
  isThere path := return match ← attempt (IO.FS.readFile path) with
    | .error .notFound | .error .notADirectory => false
    | _ => true
  read path := attempt (IO.FS.readFile path)
  readInput := do attempt (readAllLines (← IO.getStdin) "")
  makeDirectory path := attempt (IO.FS.createDirAll path)
  write path content := attempt (IO.FS.writeFile path content)

end BracketQuery.CommandLine

open BracketQuery.CommandLine in
/-- Carry out the command line and write what comes of it. -/
def main (arguments : List String) : IO UInt32 := do
  let outcome ← run Host.ofSystem arguments
  let output ← IO.getStdout
  let errors ← IO.getStderr
  for line in outcome.lines do
    match line with
    | .output text => output.putStr (text ++ "\n")
    | .error text => errors.putStr (text ++ "\n")
    | .log text => errors.putStr text
  pure (UInt32.ofNat outcome.code)
