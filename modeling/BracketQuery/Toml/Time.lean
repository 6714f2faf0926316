import BracketQuery.Calendar
import BracketQuery.Text.Digits
import BracketQuery.Toml.Scan

/-!
Dates and times: a date, a time of day, or both with an optional offset from universal time.
-/

namespace BracketQuery.Toml

/-- Two digits that write a number in a range. -/
def readTwoDigits (least greatest : Nat) : List Char → Reading Nat
  | a :: b :: rest =>
    let value := Text.decimalNumber [a, b]
    if a.isDigit && b.isDigit && least ≤ value && value ≤ greatest then .ok (value, rest)
    else miss (a :: b :: rest)
  | text => miss text

/-- A date of the calendar. Behind the hyphen after the year it can be nothing else. -/
def readDate (text : List Char) : Reading Unit :=
  let year := text.take 4
  if year.length = 4 ∧ year.all Char.isDigit then
    (expect '-' (text.drop 4)).bind fun rest =>
      commit ((readTwoDigits 1 12 rest).bind fun (month, rest) =>
        (expect '-' rest).bind fun rest =>
          (readTwoDigits 1 31 rest).bind fun (day, behind) =>
            let year := Text.decimalNumber year
            if Calendar.daysInMonth year month < day then refuse rest else .ok ((), behind))
  else miss text

/-- The fraction of a second, if there is one. -/
def skipFraction : List Char → List Char
  | '.' :: d :: rest => if d.isDigit then rest.dropWhile Char.isDigit else '.' :: d :: rest
  | text => text

/-- A time of day. Behind the colon after the hour it can be nothing else. -/
def readTime (text : List Char) : Reading Unit :=
  (readTwoDigits 0 23 text).bind fun (_, rest) =>
    (expect ':' rest).bind fun rest =>
      commit ((readTwoDigits 0 59 rest).bind fun (_, rest) =>
        (expect ':' rest).bind fun rest =>
          (readTwoDigits 0 60 rest).map fun (_, rest) => ((), skipFraction rest))

/-- An offset from universal time. -/
def readOffset : List Char → Reading Unit
  | 'Z' :: rest | 'z' :: rest => .ok ((), rest)
  | '+' :: rest | '-' :: rest =>
    commit ((readTwoDigits 0 23 rest).bind fun (_, rest) =>
      (expect ':' rest).bind fun rest =>
        (readTwoDigits 0 59 rest).map fun (_, rest) => ((), rest))
  | text => miss text

/-- A time behind a date, with its offset. -/
def readTimeOfDate : List Char → Reading Unit
  | 'T' :: rest | 't' :: rest | ' ' :: rest =>
    (readTime rest).bind fun (_, rest) =>
      (optional readOffset rest).map fun (_, rest) => ((), rest)
  | text => miss text

/-- A date with or without a time. -/
def readDateAndTime (text : List Char) : Reading Unit :=
  (readDate text).bind fun (_, rest) =>
    (optional readTimeOfDate rest).map fun (_, rest) => ((), rest)

/-- A date or a time, as it is written. -/
def readDateTime (text : List Char) : Reading String :=
  (orElse readDateAndTime readTime text).map fun (_, rest) =>
    (String.ofList (text.take (text.length - rest.length)), rest)

end BracketQuery.Toml
