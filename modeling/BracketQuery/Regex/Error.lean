import BracketQuery.Arithmetic
import BracketQuery.Regex.Syntax

/-!
What can be wrong with a regular expression, and how it is reported: the expression is shown with
marks under the place of the mistake, and then the mistake is named.
-/

namespace BracketQuery.Regex

/-- The most parts of an expression that stand in each other. -/
def maxDepth : Nat := 250

/-- The most bytes that the tables of an expression may take. -/
def maxSize : Nat := 10 * 2 ^ 20

/-- What is wrong at a place. -/
inductive Cause where
  | classEscape
  | classRangeOrder
  | classRangeBound
  | unclosedClass
  | invalidDecimal
  | emptyHex
  | invalidHex
  | invalidHexDigit
  | unfinishedEscape
  | unknownEscape
  | danglingNegation
  | duplicateFlag
  | repeatedNegation
  | unfinishedFlags
  | unknownFlag
  | duplicateName
  | emptyName
  | invalidName
  | unfinishedName
  | unclosedGroup
  | unopenedGroup
  | tooDeep
  | countOrder
  | missingCount
  | unclosedCount
  | nothingToRepeat
  | unclosedBoundary
  | unknownBoundary
  | unfinishedBoundary
  | invalidProperty
  | backreference
  | lookAround
  | unicodeNotAllowed
  | invalidUtf8
  | unknownProperty
  | unknownPropertyValue
  deriving DecidableEq, Repr

/-- The name of a mistake. -/
def Cause.message : Cause → String
  | classEscape => "invalid escape sequence found in character class"
  | classRangeOrder => "invalid character class range, the start must be <= the end"
  | classRangeBound => "invalid range boundary, must be a literal"
  | unclosedClass => "unclosed character class"
  | invalidDecimal => "decimal literal invalid"
  | emptyHex => "hexadecimal literal empty"
  | invalidHex => "hexadecimal literal is not a Unicode scalar value"
  | invalidHexDigit => "invalid hexadecimal digit"
  | unfinishedEscape => "incomplete escape sequence, reached end of pattern prematurely"
  | unknownEscape => "unrecognized escape sequence"
  | danglingNegation => "dangling flag negation operator"
  | duplicateFlag => "duplicate flag"
  | repeatedNegation => "flag negation operator repeated"
  | unfinishedFlags => "expected flag but got end of regex"
  | unknownFlag => "unrecognized flag"
  | duplicateName => "duplicate capture group name"
  | emptyName => "empty capture group name"
  | invalidName => "invalid capture group character"
  | unfinishedName => "unclosed capture group name"
  | unclosedGroup => "unclosed group"
  | unopenedGroup => "unopened group"
  | tooDeep =>
    "exceed the maximum number of nested parentheses/brackets (" ++ toString maxDepth ++ ")"
  | countOrder => "invalid repetition count range, the start must be <= the end"
  | missingCount => "repetition quantifier expects a valid decimal"
  | unclosedCount => "unclosed counted repetition"
  | nothingToRepeat => "repetition operator missing expression"
  | unclosedBoundary =>
    "special word boundary assertion is either unclosed or contains an invalid character"
  | unknownBoundary =>
    "unrecognized special word boundary assertion, valid choices are: start, end, start-half or " ++
      "end-half"
  | unfinishedBoundary =>
    "found either the beginning of a special word boundary or a bounded repetition on a \\b with " ++
      "an opening brace, but no closing brace"
  | invalidProperty => "invalid Unicode character class"
  | backreference => "backreferences are not supported"
  | lookAround => "look-around, including look-ahead and look-behind, is not supported"
  | unicodeNotAllowed => "Unicode not allowed here"
  | invalidUtf8 => "pattern can match invalid UTF-8"
  | unknownProperty => "Unicode property not found"
  | unknownPropertyValue => "Unicode property value not found"

/-- A mistake, its place, and the place of what it repeats. -/
structure SyntaxError where
  cause : Cause
  span : Span
  earlier : Option Span
  deriving DecidableEq, Repr

/-- Why an expression cannot be used. -/
inductive Refusal where
  | malformed (error : SyntaxError)
  | tooLarge
  deriving DecidableEq, Repr

/-! ## Places by line and column -/

/-- The number of lines before a place, and of characters before it on its line. -/
def lineAndColumn (pattern : List Char) (place : Nat) : Nat × Nat :=
  let before := pattern.take place
  (before.count '\n', (before.reverse.takeWhile (· != '\n')).length)

/-- The lines of a text. A carriage return before the end of a line belongs to that end. -/
def linesOf (pattern : List Char) : List (List Char) :=
  let parts := pattern.splitOn '\n'
  let ended := parts.dropLast.map fun line =>
    if line.getLast? = some '\r' then line.dropLast else line
  match parts.getLast? with
  | none | some [] => ended
  | some last => ended ++ [last]

/-- The marks for places on one line, from left to right: columns, and the columns behind them. -/
def marks (columns : List (Nat × Nat)) : List Char :=
  columns.foldl (fun line (start, stop) =>
    line ++ List.replicate (start - line.length) ' ' ++
      List.replicate (max 1 (stop - start)) '^') []

/-- A text with blanks before it, up to a width. -/
def padLeft (width : Nat) (text : String) : String := "".pushn ' ' (width - text.length) ++ text

namespace SyntaxError

/-- The places that are marked, in their order. -/
def spans (error : SyntaxError) : List Span :=
  match error.earlier with
  | none => [error.span]
  | some other =>
    if other.start < error.span.start ∨
      (other.start = error.span.start ∧ other.stop ≤ error.span.stop)
    then [other, error.span] else [error.span, other]

/-- The width of line numbers; a single line has none. -/
def numberWidth (pattern : List Char) : Nat :=
  let lines := pattern.count '\n' + 1
  if lines ≤ 1 then 0 else (toString lines).length

/-- The lines of the expression, with marks under the places that lie on one line. -/
def notated (error : SyntaxError) (pattern : List Char) : String :=
  let width := numberWidth pattern
  String.join ((linesOf pattern).mapIdx fun i line =>
    let number := if width = 0 then "    " else padLeft width (toString (i + 1)) ++ ": "
    let columns := error.spans.filterMap fun span =>
      let (startLine, start) := lineAndColumn pattern span.start
      let (stopLine, stop) := lineAndColumn pattern span.stop
      if startLine = i ∧ stopLine = i then some (start, stop) else none
    let under :=
      if columns.isEmpty then ""
      else
        "".pushn ' ' (if width = 0 then 4 else width + 2) ++ String.ofList (marks columns) ++ "\n"
    number ++ String.ofList line ++ "\n" ++ under)

/-- What is said of the places that lie on several lines. -/
def notes (error : SyntaxError) (pattern : List Char) : List String :=
  error.spans.filterMap fun span =>
    let (startLine, start) := lineAndColumn pattern span.start
    let (stopLine, stop) := lineAndColumn pattern span.stop
    if startLine = stopLine then none
    else some ("on line " ++ toString (startLine + 1) ++ " (column " ++ toString (start + 1) ++
      ") through line " ++ toString (stopLine + 1) ++ " (column " ++ toString stop ++ ")")

/-- The report on a mistake in an expression. -/
def message (error : SyntaxError) (pattern : String) : String :=
  let chars := pattern.toList
  let said := "error: " ++ error.cause.message
  if chars.contains '\n' then
    let divider := "".pushn '~' 79 ++ "\n"
    let notes := "\n".intercalate (error.notes chars)
    "regex parse error:\n" ++ divider ++ error.notated chars ++ divider ++
      (if notes.isEmpty then "" else notes ++ "\n") ++ said
  else "regex parse error:\n" ++ error.notated chars ++ said

end SyntaxError

/-- The wording of a refusal of an expression. -/
def Refusal.message (pattern : String) : Refusal → String
  | malformed error => error.message pattern
  | tooLarge => "Compiled regex exceeds size limit of " ++ toString maxSize ++ " bytes."

end BracketQuery.Regex
