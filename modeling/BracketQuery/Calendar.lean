import BracketQuery.Text.Blank
import BracketQuery.Text.Digits

/-!
Calendar dates in the form `2024-01-31`, and the instant at which such a day begins. A date has to
have this form and to name a day. The form allows the digits of any script; the reader that looks for
the day knows only those of the ASCII range, but does not insist on the form.
-/

namespace BracketQuery.Calendar

/-- A year in which February has twenty-nine days. -/
def isLeapYear (year : Int) : Bool := year % 4 == 0 && (year % 100 != 0 || year % 400 == 0)

/-- The number of days of a month of a year, counted from one; no days for other months. -/
def daysInMonth (year : Int) : Nat → Nat
  | 1 | 3 | 5 | 7 | 8 | 10 | 12 => 31
  | 4 | 6 | 9 | 11 => 30
  | 2 => if isLeapYear year then 29 else 28
  | _ => 0

/-- A day by year, month and day of the month. -/
structure Date where
  year : Int
  month : Nat
  day : Nat
  deriving DecidableEq, Repr

/-- The first year that the calendar reaches. -/
def firstYear : Int := -262143

/-- The last year that the calendar reaches. -/
def lastYear : Int := 262142

/-- Whether the calendar has such a day. -/
def Date.isValid (date : Date) : Bool :=
  firstYear ≤ date.year && date.year ≤ lastYear &&
    1 ≤ date.day && date.day ≤ daysInMonth date.year date.month

/-! ## The form -/

/-- Whether a text has the form `YYYY-MM-DD`. -/
def hasForm : List Char → Bool
  | [y₁, y₂, y₃, y₄, '-', m₁, m₂, '-', d₁, d₂] =>
    [y₁, y₂, y₃, y₄, m₁, m₂, d₁, d₂].all Text.isDecimalDigit
  | _ => false

/-! ## The day -/

/-- The number that the ASCII digits at the front of a text write, of which there is at least one and
at most `most` are read, and the rest of the text. -/
def readDigits? (most : Nat) (text : List Char) : Option (Nat × List Char) :=
  let digits := (text.take most).takeWhile Char.isDigit
  if digits.isEmpty then none else some (Text.decimalNumber digits, text.drop digits.length)

/-- A year of up to four digits, or with a sign and any number of digits, behind white space. -/
def readYear? (text : List Char) : Option (Int × List Char) :=
  match text.dropWhile Text.isBlank with
  | '-' :: rest => (readDigits? rest.length rest).map fun (year, rest) => (-year, rest)
  | '+' :: rest => (readDigits? rest.length rest).map fun (year, rest) => (year, rest)
  | rest => (readDigits? 4 rest).map fun (year, rest) => (year, rest)

/-- A month or a day, behind white space. -/
def readPart? (text : List Char) : Option (Nat × List Char) :=
  readDigits? 2 (text.dropWhile Text.isBlank)

/-- What follows a hyphen. -/
def readHyphen? : List Char → Option (List Char)
  | '-' :: rest => some rest
  | _ => none

/-- The day that a text names by year, month and day with hyphens between them, if there is such a
day. -/
def parse? (text : List Char) : Option Date := do
  let (year, rest) ← readYear? text
  let (month, rest) ← readPart? (← readHyphen? rest)
  let (day, rest) ← readPart? (← readHyphen? rest)
  let date := Date.mk year month day
  if rest.isEmpty && date.isValid then some date else none

/-! ## Dates -/

/-- Whether a text is a calendar date. -/
def isDate (text : String) : Bool := hasForm text.toList && (parse? text.toList).isSome

/-- What is appended to a date to name the first instant of the day. -/
def midnight : String := "T00:00:00.000Z"

/-- The first instant of the day that a text names. A text with a `T` in it may already name an
instant. -/
def expand? (text : String) : Option String :=
  if 'T' ∈ text.toList ∨ isDate text = false then none else some (text ++ midnight)

end BracketQuery.Calendar
