import BracketQuery.Regex
import BracketQuery.Text.Blank

/-!
Log records and which of them are shown. A filter is written as a list of directives, each naming a
least severity, a target, or both; a record is judged by the directive with the longest target that
its own target begins with. Behind a slash a regular expression may say what messages have to hold.
-/

namespace BracketQuery.CommandLine

/-- How severe a record is. -/
inductive Severity where
  | error
  | warn
  | info
  | debug
  | trace
  deriving DecidableEq, Repr

namespace Severity

/-- The more severe, the smaller. -/
def rank : Severity → Nat
  | error => 1
  | warn => 2
  | info => 3
  | debug => 4
  | trace => 5

/-- The name of a severity. -/
def name : Severity → String
  | error => "ERROR"
  | warn => "WARN"
  | info => "INFO"
  | debug => "DEBUG"
  | trace => "TRACE"

/-- The least severity of a name in either case; nothing is severe enough for `off`. -/
def threshold? (name : String) : Option (Option Severity) :=
  let upper := String.ofList (name.toList.map Char.toUpper)
  if upper = "OFF" then some none
  else ([error, warn, info, debug, trace].find? fun severity => severity.name == upper).map some

end Severity

/-- Something that happened, where in the program, and how severe it is. -/
structure Record where
  severity : Severity
  target : String
  message : String
  deriving DecidableEq, Repr

/-- The written form of a record. Further lines are indented. -/
def Record.text (record : Record) : String :=
  let level := record.severity.name
  "[" ++ level ++ "".pushn ' ' (5 - level.length) ++ " " ++ record.target ++ "] " ++
    "\n    ".intercalate ((record.message.toList.splitOn '\n').map String.ofList)

/-- The records of a target, or all, that are severe enough. -/
structure Directive where
  target : Option String
  threshold : Option Severity
  deriving DecidableEq, Repr

/-- Directives, and what messages must hold to be shown. -/
structure LogFilter where
  directives : List Directive
  pattern : Option Regex.Pattern

namespace LogFilter

/-- The directives with one more, which takes the place of one with the same target. -/
def add (directives : List Directive) (directive : Directive) : List Directive :=
  if directives.any (·.target == directive.target) then
    directives.map fun other => if other.target == directive.target then directive else other
  else directives ++ [directive]

/-- The directive that a text writes, or the part of it that is wrong. -/
def directiveOf (text : List Char) : Except String Directive :=
  match text.splitOn '=' with
  | [only] =>
    let name := String.ofList only
    match Severity.threshold? name with
    | some threshold => .ok ⟨none, threshold⟩
    | none => .ok ⟨some name, some .trace⟩
  | [target, level] =>
    let level := String.ofList (Text.trim level)
    match level, Severity.threshold? level with
    | "", _ => .ok ⟨some (String.ofList target), some .trace⟩
    | _, some threshold => .ok ⟨some (String.ofList target), threshold⟩
    | _, none => .error level
  | _ => .error (String.ofList text)

/-- What is said of something that is wrong. -/
def warning (mistake : String) : String := "warning: " ++ mistake ++ ", ignoring it"

/-- Only errors, where nothing else is asked for. -/
def ofDirectives (directives : List Directive) (pattern : Option Regex.Pattern) : LogFilter :=
  if directives.isEmpty then ⟨[⟨none, some .error⟩], pattern⟩ else ⟨directives, pattern⟩

/-- What messages have to hold, as a text writes it, and what is said of it if it is wrong. -/
def patternOf (text : String) : Option Regex.Pattern × List String :=
  match Regex.parse text with
  | .ok pattern => (some pattern, [])
  | .error refusal => (none, [warning ("invalid regex filter - " ++ refusal.message text)])

/-- The filter that a text writes, and what is said of its parts that are wrong. -/
def parse (text : String) : LogFilter × List String :=
  let parts := text.toList.splitOn '/'
  if 2 < parts.length then
    (ofDirectives [] none, [warning ("invalid logging spec '" ++ text ++ "' (too many '/'s)")])
  else
    let specs := (((parts.head?.getD []).splitOn ',').map Text.trim).filter (!·.isEmpty)
    let (directives, warnings) := specs.foldl (fun (directives, warnings) spec =>
      match directiveOf spec with
      | .ok directive => (add directives directive, warnings)
      | .error wrong =>
        (directives, warnings ++ [warning ("invalid logging spec '" ++ wrong ++ "'")])) ([], [])
    let (pattern, more) := match parts[1]? with
      | none => (none, [])
      | some pattern => patternOf (String.ofList pattern)
    (ofDirectives directives pattern, warnings ++ more)

/-- Everything from a severity on. -/
def ofSeverity (severity : Severity) : LogFilter := ⟨[⟨none, some severity⟩], none⟩

/-- The length of the target of a directive. -/
def specificity (directive : Directive) : Nat := (directive.target.getD "").utf8ByteSize

/-- The directive that judges a target: of those that apply, the last of the longest ones. -/
def directiveFor? (filter : LogFilter) (target : String) : Option Directive :=
  filter.directives.foldl (fun best directive =>
    let applies := directive.target.all fun start => target.startsWith start
    let better := best.all fun other => specificity other ≤ specificity directive
    if applies && better then some directive else best) none

/-- Whether a record is shown. -/
def shows (filter : LogFilter) (record : Record) : Bool :=
  ((filter.directiveFor? record.target).bind (·.threshold)).any
      (fun threshold => record.severity.rank ≤ threshold.rank) &&
    filter.pattern.all fun pattern => pattern.isIn record.message.toList

end LogFilter

end BracketQuery.CommandLine
