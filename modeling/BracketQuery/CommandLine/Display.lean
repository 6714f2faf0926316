import BracketQuery.CommandLine.Console
import BracketQuery.Document.Encode
import BracketQuery.Json.Writer
import BracketQuery.Normalization.Encode
import BracketQuery.Text.Table
import BracketQuery.Wire.Encode

/-!
The results of commands in their three forms: as a table, as a document and in one line.
-/

namespace BracketQuery.CommandLine

/-- How an outcome is called in messages and tables. -/
def outcomeLabel : Normalization.Outcome → String
  | .unchanged => "unchanged"
  | .normalized => "normalized"
  | .matchesNothing => "matches nothing"

/-- How an outcome is meant. -/
def outcomeTone : Normalization.Outcome → Tone
  | .unchanged => .detail
  | .normalized => .success
  | .matchesNothing => .warning

/-- A result in its three forms. -/
structure Display where
  table : Text.Table
  document : Json
  line : String

/-- A compiled query, with its URL where there is a base for it and its outcome where it has been
normalized. -/
structure CompiledQuery where
  params : Params
  url : Option String
  outcome : Option Normalization.Outcome
  deriving DecidableEq, Repr

/-- The forms of a compiled query. -/
def CompiledQuery.display (compiled : CompiledQuery) : Display where
  table := {
    header := ["#", "Category", "Key", "Value"]
    rows :=
      if compiled.params.isEmpty then [["-", "-", "(no parameters)", ""]]
      else compiled.params.mapIdx fun i param =>
        [toString i, param.category.root, param.key, param.value]
  }
  document := .object (
    [("query", .string compiled.params.queryString)] ++
    (compiled.url.map fun url => ("url", Json.string url)).toList ++
    [("params", compiled.params.toJson)] ++
    (compiled.outcome.map fun outcome => ("outcome", Json.string outcome.name)).toList)
  line := compiled.url.getD compiled.params.queryString

/-- Filters that have been normalized. -/
structure NormalizedFilters where
  filters : FilterNode
  report : Normalization.Report

/-- The forms of normalized filters. -/
def NormalizedFilters.display (normalized : NormalizedFilters) : Display where
  table := {
    header := ["Item", "Value"]
    rows := [
      ["filters", normalized.filters.toJson.pretty 0],
      ["outcome", outcomeLabel normalized.report.outcome],
      ["expanded dates", toString normalized.report.expandedDates],
      ["canonicalized codes", toString normalized.report.canonicalizedCodes]] ++
      normalized.report.droppedValues.map fun (path, value) =>
        ["dropped", value ++ " at " ++ path.text]
  }
  document := .object [
    ("filters", normalized.filters.toJson),
    ("outcome", .string normalized.report.outcome.name),
    ("report", normalized.report.toJson)]
  line := normalized.filters.toJson.compact

namespace Console

variable {m : Type → Type} [Monad m]

/-- Write a result in the form that is asked for. A result in one line is written also by a quiet
command, since it is what other programs read. -/
def display (console : Console) (result : Display) : Session m Unit :=
  match console.settings.format with
  | .compact => write (.output result.line)
  | .json => console.say (.output (result.document.pretty 0))
  | .table =>
    let style := if console.settings.plain then Text.BoxStyle.ascii else Text.BoxStyle.condensed
    console.say (.output (result.table.text style))

/-- Say what normalization came to. -/
def outcome (console : Console) (outcome : Normalization.Outcome) : Session m Unit :=
  console.say (.error ((outcomeTone outcome).status ("filters " ++ outcomeLabel outcome)))

end Console

end BracketQuery.CommandLine
