import BracketQuery.Text.Blank
import BracketQuery.Text.Casing

/-!
The list of type codes that a backend knows. Codes are kept in lower case and without white space at
their ends; a candidate is looked up by its lower-case form.
-/

namespace BracketQuery

/-- The known type codes, in order. -/
structure TypeCodes where
  codes : List String
  deriving DecidableEq, Repr

namespace TypeCodes

/-- The form in which a code is kept. -/
def clean (code : String) : String := Text.lowercase (String.ofList (Text.trim code.toList))

/-- Keep a code at the end of the list, unless it is blank or known. -/
def add (codes : List String) (code : String) : List String :=
  let code := clean code
  if code = "" ∨ code ∈ codes then codes else codes ++ [code]

/-- The list of the given codes, each once. -/
def ofList (codes : List String) : TypeCodes := ⟨codes.foldl add []⟩

/-- The codes that are known unless others are given. -/
def standard : TypeCodes :=
  ofList ["sale", "purchase", "return", "transfer", "adjustment", "partial_invoice"]

instance : Inhabited TypeCodes := ⟨standard⟩

/-- The code that a candidate stands for, if it is known. -/
def canonicalize? (known : TypeCodes) (candidate : String) : Option String :=
  let code := Text.lowercase candidate
  if code ∈ known.codes then some code else none

/-- Whether a candidate stands for a known code. -/
def contains (known : TypeCodes) (candidate : String) : Bool :=
  (known.canonicalize? candidate).isSome

end TypeCodes

end BracketQuery
