import BracketQuery.Json.Basic
import BracketQuery.Normalization.Report

/-!
The JSON form of a report.
-/

namespace BracketQuery.Normalization.Report

/-- A report as a document. -/
def toJson (report : Report) : Json :=
  .object [
    ("dropped_values", .array (report.droppedValues.map fun (path, value) =>
      .object [("path", .string path.text), ("value", .string value)])),
    ("emptied_fields", Json.strings (report.emptiedFields.map KeyPath.text)),
    ("expanded_dates", .number (.integer report.expandedDates)),
    ("canonicalized_codes", .number (.integer report.canonicalizedCodes))]

end BracketQuery.Normalization.Report
