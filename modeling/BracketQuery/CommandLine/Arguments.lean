import BracketQuery.CommandLine.Invocation
import BracketQuery.Text.Terminal

/-!
Reading a command line: options of all commands, one command, its own options and a file. An option
that takes a value waits for it until the next option or the end, where the value is looked at; so
of two mistakes the one that is noticed first is reported. Options of all commands may stand before
and behind the command, and those behind it count more.
-/

namespace BracketQuery.CommandLine

/-- What may be given on a command line. -/
inductive Argument where
  | output
  | quiet
  | verbose
  | noColor
  | config
  | normalize
  | baseUrl
  | path
  | force
  | file
  | help
  | version
  deriving DecidableEq, Repr

namespace Argument

/-- How an argument is shown in messages. -/
def shown : Argument → String
  | output => "--output <OUTPUT>"
  | quiet => "--quiet"
  | verbose => "--verbose"
  | noColor => "--no-color"
  | config => "--config <CONFIG>"
  | normalize => "--normalize"
  | baseUrl => "--base-url <BASE_URL>"
  | path => "--path <PATH>"
  | force => "--force"
  | file => "[FILE]"
  | help => "--help"
  | version => "--version"

/-- The name of an argument behind two hyphens. -/
def longName? : Argument → Option String
  | output => some "output"
  | quiet => some "quiet"
  | verbose => some "verbose"
  | noColor => some "no-color"
  | config => some "config"
  | normalize => some "normalize"
  | baseUrl => some "base-url"
  | path => some "path"
  | force => some "force"
  | file => none
  | help => some "help"
  | version => some "version"

/-- The name of an argument behind one hyphen. -/
def shortName? : Argument → Option Char
  | quiet => some 'q'
  | verbose => some 'v'
  | help => some 'h'
  | version => some 'V'
  | _ => none

/-- Whether an argument has a value. -/
def takesValue : Argument → Bool
  | output | config | baseUrl | path | file => true
  | _ => false

end Argument

/-- Where an argument stands: before the command, or behind one of the three. -/
inductive Level where
  | root
  | compile
  | normalize
  | init
  deriving DecidableEq, Repr

namespace Level

/-- The arguments that a level knows. -/
def arguments : Level → List Argument
  | root => common ++ [.version]
  | compile => common ++ [.normalize, .baseUrl]
  | normalize => common
  | init => common ++ [.path, .force]
where
  common : List Argument := [.output, .quiet, .verbose, .noColor, .config, .help]

/-- Whether a level takes a file. -/
def takesFile : Level → Bool
  | compile | normalize => true
  | root | init => false

/-- The level behind the name of a command. -/
def ofCommand? : String → Option Level
  | "compile" => some compile
  | "normalize" => some normalize
  | "init" => some init
  | _ => none

/-- The argument of a long name. -/
def long? (level : Level) (name : String) : Option Argument :=
  level.arguments.find? fun argument => argument.longName? == some name

/-- The argument of a short name. -/
def short? (level : Level) (name : Char) : Option Argument :=
  level.arguments.find? fun argument => argument.shortName? == some name

end Level

/-- What is wrong with a command line. -/
inductive UsageError where
  | unexpectedArgument (written : String)
  | unknownCommand (written : String)
  | invalidValue (value : String) (argument : Argument)
  | missingValue (argument : Argument)
  | unexpectedValue (value : String) (argument : Argument)
  | repeated (argument : Argument)
  | missingCommand
  deriving DecidableEq, Repr

/-- The wording of an error. What a terminal would not show of the command line is left out. -/
def UsageError.message : UsageError → String
  | unexpectedArgument written => "unexpected argument " ++ quoted written ++ " found"
  | unknownCommand written => "unrecognized subcommand " ++ quoted written
  | invalidValue value argument =>
    "invalid value " ++ quoted value ++ " for '" ++ argument.shown ++ "'"
  | missingValue argument =>
    "a value is required for '" ++ argument.shown ++ "' but none was supplied"
  | unexpectedValue value argument =>
    "unexpected value " ++ quoted value ++ " for '" ++ argument.shown ++
      "' found; no more were expected"
  | repeated argument => "the argument '" ++ argument.shown ++ "' cannot be used multiple times"
  | missingCommand => "'intentql' requires a subcommand but one was not provided"
where
  quoted (written : String) : String := "'" ++ Text.Terminal.strip written ++ "'"

/-- Why a command line is not carried out. -/
inductive Stop where
  | help
  | version
  /-- Nothing at all was given. -/
  | nothing
  | error (error : UsageError)
  deriving DecidableEq, Repr

/-- The arguments of one level that have been read, and the one whose value is not complete. -/
structure Reading where
  given : List (Argument × String)
  pending : Option (Argument × Option String)
  deriving DecidableEq, Repr

namespace Reading

def empty : Reading := ⟨[], none⟩

/-- The value given for an argument. -/
def value? (reading : Reading) (argument : Argument) : Option String :=
  reading.given.lookup argument

/-- Whether an argument is given. -/
def has (reading : Reading) (argument : Argument) : Bool := (reading.value? argument).isSome

/-- Whether the next text that is no option is the value of an option. -/
def isWaiting (reading : Reading) : Bool :=
  match reading.pending with
  | some (_, none) => true
  | _ => false

end Reading

/-- Whether a value can be one of an argument. -/
def checkValue (argument : Argument) (value : String) : Except Stop Unit :=
  match argument with
  | .output =>
    if value.isEmpty then .error (.error (.missingValue .output))
    else if (Format.parse? value).isSome then .ok ()
    else .error (.error (.invalidValue value .output))
  | .config | .path | .file =>
    if value.isEmpty then .error (.error (.missingValue argument)) else .ok ()
  | _ => .ok ()

/-- Take an argument with its value; each may be given once on a level. -/
def Reading.add (reading : Reading) (argument : Argument) (value : String) : Except Stop Reading :=
  if reading.has argument then .error (.error (.repeated argument))
  else (checkValue argument value).map fun _ => ⟨reading.given ++ [(argument, value)], none⟩

/-- Take the argument that is pending. -/
def Reading.settle (reading : Reading) : Except Stop Reading :=
  match reading.pending with
  | none => .ok reading
  | some (argument, none) => .error (.error (.missingValue argument))
  | some (argument, some value) => reading.add argument value

/-- Take an argument that has no value, or an option that waits for its value. -/
def Reading.start (reading : Reading) (argument : Argument) : Except Stop Reading :=
  reading.settle.bind fun reading =>
    match argument with
    | .help => .error .help
    | .version => .error .version
    | _ =>
      if argument.takesValue then .ok { reading with pending := some (argument, none) }
      else reading.add argument ""

/-- Take letters behind one hyphen. -/
def readLetters (level : Level) (reading : Reading) : List Char → Except Stop Reading
  | [] => .ok reading
  | letter :: rest =>
    match level.short? letter with
    | none => .error (.error (.unexpectedArgument (String.ofList ['-', letter])))
    | some argument => (reading.start argument).bind fun reading => readLetters level reading rest

/-- Take a name behind two hyphens, perhaps with a value behind an equals sign. -/
def readLong (level : Level) (reading : Reading) (written : List Char) : Except Stop Reading :=
  let name := String.ofList (written.takeWhile (· != '='))
  match level.long? name, written.dropWhile (· != '=') with
  | none, _ => .error (.error (.unexpectedArgument ("--" ++ name)))
  | some argument, [] => reading.start argument
  | some argument, _ :: value =>
    let value := String.ofList value
    if argument.takesValue then reading.settle.bind fun reading => reading.add argument value
    else .error (.error (.unexpectedValue value argument))

/-- Take a text that is neither option nor value of one. -/
def readFree (level : Level) (reading : Reading) (text : String) : Except Stop Reading :=
  let taken := reading.has .file || reading.pending.any (·.1 == .file)
  if level.takesFile && !taken then
    reading.settle.map fun reading => { reading with pending := some (.file, some text) }
  else if level = .root && (Level.ofCommand? text).isNone && text != "help" then
    .error (.error (.unknownCommand text))
  else .error (.error (.unexpectedArgument text))

/-- Take one text of a command line; `literal` says that no option can follow. -/
def readText (level : Level) (literal : Bool) (reading : Reading) (text : String) :
    Except Stop Reading :=
  if literal then readFree level reading text
  else match text.toList with
    | '-' :: '-' :: name => readLong level reading name
    | '-' :: letter :: letters => readLetters level reading (letter :: letters)
    | _ =>
      match reading.pending with
      | some (argument, none) => .ok { reading with pending := some (argument, some text) }
      | _ => readFree level reading text

/-- Finish a level. The configuration file of the environment counts where none is given, and is
looked at on every level. -/
def Reading.finish (environment : Option String) (reading : Reading) : Except Stop Reading :=
  reading.settle.bind fun reading =>
    match environment with
    | some path =>
      if reading.has .config then .ok reading
      else (checkValue .config path).map fun _ => reading
    | none => .ok reading

/-- Read the texts of a level behind a command. -/
def readCommand (environment : Option String) (level : Level) :
    (literal : Bool) → Reading → List String → Except Stop Reading
  | _, reading, [] => reading.finish environment
  | literal, reading, text :: rest =>
    if !literal && text == "--" then readCommand environment level true reading rest
    else (readText level literal reading text).bind fun reading =>
      readCommand environment level literal reading rest

/-- What asking for help on the given command leads to. No command has commands of its own. -/
def readHelp : List String → Stop
  | [] => .help
  | command :: more =>
    if command = "help" ∨ (Level.ofCommand? command).isSome then
      match more with
      | [] => .help
      | name :: _ => .error (.unknownCommand name)
    else .error (.unknownCommand command)

/-- Read the texts before a command, then the command. -/
def readRoot (environment : Option String) :
    (literal : Bool) → Reading → List String → Except Stop (Reading × Option (Level × Reading))
  | _, reading, [] => (reading.finish environment).map fun reading => (reading, none)
  | literal, reading, text :: rest =>
    if literal || reading.isWaiting then
      if !literal && text == "--" then readRoot environment true reading rest
      else (readText .root literal reading text).bind fun reading =>
        readRoot environment literal reading rest
    else if text = "help" then .error (readHelp rest)
    else match Level.ofCommand? text with
      | some level =>
        (readCommand environment level false .empty rest).bind fun inner =>
          (reading.finish environment).map fun reading => (reading, some (level, inner))
      | none =>
        if text == "--" then readRoot environment true reading rest
        else (readText .root false reading text).bind fun reading =>
          readRoot environment false reading rest

/-- What a command line asks for. The environment may name a configuration file. -/
def Invocation.parse (environment : Option String) (arguments : List String) :
    Except Stop Invocation :=
  (readRoot environment false .empty arguments).bind fun (outer, command) =>
    match command with
    | none =>
      .error
        (if outer.given.isEmpty && environment.isNone then .nothing else .error .missingCommand)
    | some (level, inner) =>
      let value? (argument : Argument) : Option String :=
        (inner.value? argument).or (outer.value? argument)
      let has (argument : Argument) : Bool := (value? argument).isSome
      .ok {
        settings := {
          format := ((value? .output).bind Format.parse?).getD .table
          quiet := has .quiet
          verbose := has .verbose
          plain := has .noColor
        }
        configuration := (value? .config).or environment
        task := match level with
          | .init => .init ((value? .path).getD configurationName) (has .force)
          | .normalize => .normalize (value? .file)
          | .compile | .root => .compile (value? .file) (has .normalize) (value? .baseUrl)
      }

end BracketQuery.CommandLine
