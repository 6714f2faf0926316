import BracketQuery.Text.Quoted

/-!
What a document says that an intent cannot hold. Decoding leaves such parts out and notes them.
-/

namespace BracketQuery

/-- A part of a document that was left out. Members with the value null are left out silently. -/
inductive Omission where
  | unknownKey (key : String)
  | filtersOfKind (kind : String)
  | memberOfGroup (key : String)
  | objectOperand (field operator : String)
  | elementOfList (field : String)
  | unknownShapeKey (relation key : String)
  | relationOfKind (relation kind : String)
  deriving DecidableEq, Repr

/-- The wording of an omission. -/
def Omission.message : Omission → String
  | unknownKey key => "ignoring unknown intent key " ++ Text.quoted key
  | filtersOfKind kind => "ignoring non-object filters (" ++ kind ++ ")"
  | memberOfGroup key => "skipping non-object member of " ++ key
  | objectOperand field operator => "skipping object operand " ++ field ++ "[" ++ operator ++ "]"
  | elementOfList field => "skipping non-scalar list element under " ++ field
  | unknownShapeKey relation key =>
    "ignoring unsupported populate key " ++ relation ++ "[" ++ key ++ "]"
  | relationOfKind relation kind =>
    "ignoring populate value for " ++ relation ++ " (" ++ kind ++ ")"

end BracketQuery
