import BracketQuery.TypeCodes

/-!
What normalization is told: the field that holds type codes, the known codes, and whether dates are
expanded.
-/

namespace BracketQuery.Normalization

structure Options where
  /-- The field whose comparisons hold type codes. -/
  typeField : String
  typeCodes : TypeCodes
  expandDates : Bool
  deriving DecidableEq, Repr

namespace Options

def standard : Options := ⟨"type", TypeCodes.standard, true⟩

instance : Inhabited Options := ⟨standard⟩

/-- Why options cannot be used. -/
inductive Defect where
  | blankTypeField
  | noTypeCodes
  deriving DecidableEq, Repr

/-- The wording of a defect. -/
def Defect.message : Defect → String
  | blankTypeField => "normalizer type_field must not be empty"
  | noTypeCodes => "normalizer type_codes must list at least one code"

/-- What is wrong with the options, if anything. -/
def defect? (options : Options) : Option Defect :=
  if (Text.trim options.typeField.toList).isEmpty then some .blankTypeField
  else if options.typeCodes.codes.isEmpty then some .noTypeCodes
  else none

end Options

end BracketQuery.Normalization
