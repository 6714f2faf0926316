/-!
Bracket paths such as `filters[customer][name][$eq]`: a root and the segments below it.
-/

namespace BracketQuery

/-- A place in a query: the name of a category and the keys that lead down from it. -/
structure KeyPath where
  root : String
  segments : List String
  deriving DecidableEq, Repr

namespace KeyPath

/-- The path of a category. -/
def ofRoot (root : String) : KeyPath := ⟨root, []⟩

/-- The place under a key. -/
def child (path : KeyPath) (segment : String) : KeyPath := ⟨path.root, path.segments ++ [segment]⟩

/-- The place of an element of a list, counted from zero. -/
def index (path : KeyPath) (i : Nat) : KeyPath := path.child (toString i)

/-- The brackets that a segment is written in. -/
def bracketed (segment : String) : String := "[" ++ segment ++ "]"

/-- The written form of a path. Segments are written as they are, whatever they hold. -/
def text (path : KeyPath) : String :=
  path.segments.foldl (fun written segment => written ++ bracketed segment) path.root

@[simp] theorem text_ofRoot (root : String) : (ofRoot root).text = root := rfl

@[simp] theorem text_child (path : KeyPath) (segment : String) :
    (path.child segment).text = path.text ++ bracketed segment := by
  simp [text, child]

end KeyPath

end BracketQuery
