import BracketQuery.KeyPath
import BracketQuery.Text.Quoted

/-!
What normalization did to the values of an intent.
-/

namespace BracketQuery.Normalization

/-- One thing that normalization did. -/
inductive Change where
  /-- An unknown type code was removed from the operator at the path. -/
  | dropped (path : KeyPath) (value : String)
  /-- The list of type codes at the path has no known code. -/
  | emptied (path : KeyPath)
  /-- A calendar date was replaced by the instant at which the day begins. -/
  | expandedDate
  /-- A type code was replaced by its canonical form. -/
  | canonicalizedCode
  deriving DecidableEq, Repr

/-- What is said about a change, if anything is. -/
def Change.message? : Change → Option String
  | dropped path value =>
    some ("dropping unknown type code " ++ Text.quoted value ++ " at " ++ path.text)
  | emptied path => some ("type filter " ++ path.text ++ " matches no known code")
  | expandedDate | canonicalizedCode => none

/-- Everything that normalization did, in order. -/
structure Report where
  changes : List Change
  deriving DecidableEq, Repr

/-- What normalization made of a request. -/
inductive Outcome where
  /-- The values are as they were. -/
  | unchanged
  /-- Values were replaced or removed. -/
  | normalized
  /-- A list of type codes is empty, so that nothing can match. An empty list is not sent, so the
  request would return everything. -/
  | matchesNothing
  deriving DecidableEq, Repr

/-- The name of an outcome. -/
def Outcome.name : Outcome → String
  | unchanged => "unchanged"
  | normalized => "normalized"
  | matchesNothing => "matches_nothing"

namespace Report

/-- The values that were removed, each with the path of its operator. -/
def droppedValues (report : Report) : List (KeyPath × String) :=
  report.changes.filterMap fun
    | .dropped path value => some (path, value)
    | _ => none

/-- The paths of the lists that have no known code. -/
def emptiedFields (report : Report) : List KeyPath :=
  report.changes.filterMap fun
    | .emptied path => some path
    | _ => none

/-- How many dates were expanded. -/
def expandedDates (report : Report) : Nat := report.changes.count .expandedDate

/-- How many codes were given their canonical form. -/
def canonicalizedCodes (report : Report) : Nat := report.changes.count .canonicalizedCode

/-- Whether nothing was done. -/
def isClean (report : Report) : Bool :=
  report.droppedValues.isEmpty && report.emptiedFields.isEmpty && report.expandedDates == 0 &&
    report.canonicalizedCodes == 0

def outcome (report : Report) : Outcome :=
  if !report.emptiedFields.isEmpty then .matchesNothing
  else if report.isClean then .unchanged
  else .normalized

end Report

end BracketQuery.Normalization
