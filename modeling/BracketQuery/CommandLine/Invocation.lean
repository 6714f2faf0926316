/-!
What a command line asks for.
-/

namespace BracketQuery.CommandLine

/-- How results are written. -/
inductive Format where
  | table
  | json
  | compact
  deriving DecidableEq, Repr

/-- The format of a name. -/
def Format.parse? : String → Option Format
  | "table" => some .table
  | "json" => some .json
  | "compact" => some .compact
  | _ => none

/-- What is written beside results, and how. -/
structure Settings where
  format : Format
  quiet : Bool
  verbose : Bool
  plain : Bool
  deriving DecidableEq, Repr

/-- What is done. -/
inductive Task where
  | compile (file : Option String) (normalize : Bool) (baseUrl : Option String)
  | normalize (file : Option String)
  | init (path : String) (force : Bool)
  deriving DecidableEq, Repr

/-- A command line that can be carried out. -/
structure Invocation where
  settings : Settings
  /-- The configuration file that is named, if one is. -/
  configuration : Option String
  task : Task
  deriving DecidableEq, Repr

/-- The name of the configuration file. -/
def configurationName : String := "intentql.toml"

end BracketQuery.CommandLine
