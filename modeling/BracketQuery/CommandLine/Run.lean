import BracketQuery.CommandLine.Arguments
import BracketQuery.CommandLine.Commands

/-!
A command line from its texts to what is written and the exit code.
-/

namespace BracketQuery.CommandLine

/-- What comes of a command line. -/
structure Outcome where
  code : Nat
  lines : List Line
  deriving DecidableEq, Repr

namespace Outcome

/-- The text of the standard output. -/
def output (outcome : Outcome) : String :=
  String.join (outcome.lines.map fun
    | .output text => text ++ "\n"
    | .error _ | .log _ => "")

/-- The text of the standard error. -/
def errors (outcome : Outcome) : String :=
  String.join (outcome.lines.map fun
    | .error text => text ++ "\n"
    | .log text => text
    | .output _ => "")

end Outcome

/-- What the program is for. -/
def about : String := "Compile structured query intents into bracket-path REST query strings"

/-- How the program is called. -/
def usage : String :=
  about ++ "\n\nUsage: intentql [OPTIONS] <COMMAND>\n\nCommands:\n" ++
    "  compile    Compile an intent JSON document into a query string\n" ++
    "  normalize  Canonicalize type codes and dates in a filter tree\n" ++
    "  init       Write a default intentql.toml"

/-- What comes of a command line that is not carried out. -/
def Stop.outcome : Stop → Outcome
  | help => ⟨0, [.output usage]⟩
  | version => ⟨0, [.output "intentql 0.1.0"]⟩
  | nothing => ⟨2, [.error usage]⟩
  | error problem =>
    ⟨2, [.error ("error: " ++ problem.message), .error "",
      .error "For more information, try '--help'."]⟩

/-- What is heard of a command, and what is said of the filter that the environment gives. -/
def consoleOf (settings : Settings) (logging : Option String) : Console × List Line :=
  match logging with
  | none => (⟨settings, .ofSeverity (if settings.verbose then .debug else .warn)⟩, [])
  | some text =>
    let (filter, warnings) := LogFilter.parse text
    (⟨settings, filter⟩, warnings.map .error)

/-- Carry out a command line on a host. -/
def run {m : Type → Type} [Monad m] (host : Host m) (arguments : List String) : m Outcome := do
  let configuration ← host.environment "INTENTQL_CONFIG"
  match Invocation.parse configuration arguments with
  | .error stop => pure stop.outcome
  | .ok invocation =>
    let (console, warnings) := consoleOf invocation.settings (← host.environment "RUST_LOG")
    let (result, lines) ← StateT.run (invocation.run host console) warnings
    match result with
    | .ok () => pure ⟨0, lines⟩
    | .error reason => pure ⟨1, lines ++ [.error (Tone.error.status reason)]⟩

end BracketQuery.CommandLine
