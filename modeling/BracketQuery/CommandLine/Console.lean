import BracketQuery.CommandLine.Host
import BracketQuery.CommandLine.Invocation
import BracketQuery.CommandLine.Logging
import BracketQuery.Text.Terminal

/-!
What a command writes: results and remarks to the standard output, everything else to the standard
error. A command that fails says why at its end.
-/

namespace BracketQuery.CommandLine

/-- Something that is written. -/
inductive Line where
  /-- A result or a remark, with a line break behind it. -/
  | output (text : String)
  /-- A message, with a line break behind it. -/
  | error (text : String)
  /-- A log record with its line break, as far as a terminal shows them. -/
  | log (text : String)
  deriving DecidableEq, Repr

/-- What is heard of a command. -/
structure Console where
  settings : Settings
  filter : LogFilter

/-- A command that writes lines and may fail for a reason, on a host. -/
abbrev Session (m : Type → Type) := ExceptT String (StateT (List Line) m)

/-- How a message is meant. -/
inductive Tone where
  | success
  | error
  | warning
  | info
  | detail
  deriving DecidableEq, Repr

/-- The sign in front of a message. -/
def Tone.sign : Tone → String
  | success => "✓"
  | error => "✗"
  | warning => "⚠"
  | info => "ℹ"
  | detail => "→"

/-- A message with its sign. -/
def Tone.status (tone : Tone) (message : String) : String := tone.sign ++ " " ++ message

variable {m : Type → Type} [Monad m]

/-- Write a line. -/
def write (line : Line) : Session m Unit := modify (· ++ [line])

/-- Ask the host. -/
def ask {α : Type} (effect : m α) : Session m α := ExceptT.lift (StateT.lift effect)

/-- Ask the host for something that may fail, which fails the command. -/
def askFor {α : Type} (effort : String) (effect : m (Except FileError α)) : Session m α := do
  match ← ask effect with
  | .ok value => pure value
  | .error error => throw (effort ++ ": " ++ error.message)

namespace Console

/-- Write a line unless the command is to be quiet. -/
def say (console : Console) (line : Line) : Session m Unit :=
  if console.settings.quiet then pure () else write line

def success (console : Console) (message : String) : Session m Unit :=
  console.say (.output (Tone.success.status message))

def info (console : Console) (message : String) : Session m Unit :=
  console.say (.output (Tone.info.status message))

def warning (console : Console) (message : String) : Session m Unit :=
  console.say (.error (Tone.warning.status message))

/-- Something that is only said where more is asked for. -/
def detail (console : Console) (message : String) : Session m Unit :=
  if console.settings.verbose then console.say (.error (Tone.detail.status message)) else pure ()

def keyValue (console : Console) (key value : String) : Session m Unit :=
  console.say (.output (key ++ ": " ++ value))

def hint (console : Console) (text : String) : Session m Unit :=
  console.say (.error ("  • " ++ text))

/-- Log a record. -/
def log (console : Console) (severity : Severity) (target message : String) : Session m Unit :=
  let record : Record := ⟨severity, target, message⟩
  if console.filter.shows record then write (.log (Text.Terminal.strip (record.text ++ "\n")))
  else pure ()

end Console

end BracketQuery.CommandLine
