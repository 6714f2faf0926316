/-!
Paths of files as texts with slashes. Repeated slashes and single dots between names do not count.
-/

namespace BracketQuery.CommandLine.Path

/-- The texts between the slashes of a path. -/
def parts (path : String) : List String := (path.toList.splitOn '/').map String.ofList

/-- The path of the given parts; no part but an empty first one is the root. -/
def ofParts (parts : List String) : String := if parts = [""] then "/" else "/".intercalate parts

/-- Whether a part of a path leads nowhere else. -/
def isIdle (part : String) : Bool := part == "" || part == "."

/-- The names of a path, and its first part in any case. Two paths with the same names are the same.
-/
def names (path : String) : List String :=
  match parts path with
  | [] => []
  | first :: rest => first :: rest.filter fun part => !isIdle part

/-- The parts without those at the end that lead nowhere else; the first part stays. -/
def trimEnd : List String → List String
  | [] => []
  | first :: rest => first :: (rest.reverse.dropWhile isIdle).reverse

/-- The path of the directory that holds the last name of a path; empty if that is the current
one. -/
def parent (path : String) : String :=
  match trimEnd (parts path) with
  | [""] => "/"
  | kept => ofParts (trimEnd kept.dropLast)

/-- The path of a name in a directory. -/
def join (directory name : String) : String :=
  if directory.endsWith "/" then directory ++ name else directory ++ "/" ++ name

/-- A directory and the directories that hold it, from the inside out. -/
def ancestors (directory : String) : List String :=
  let kept := trimEnd (parts directory)
  (List.range kept.length).map fun i => ofParts (kept.take (kept.length - i))

end BracketQuery.CommandLine.Path
