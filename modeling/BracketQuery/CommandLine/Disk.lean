import BracketQuery.CommandLine.Host
import BracketQuery.CommandLine.Path

/-!
A file system in memory. Files and directories are known by the names on the way to them from the
root.
-/

namespace BracketQuery.CommandLine

/-- What stands under a name in a directory. -/
inductive Entry where
  | file (content : String)
  | directory
  deriving DecidableEq, Repr

/-- The entries of a file system, without its root, and the current directory. -/
structure Disk where
  entries : List (List String × Entry)
  current : List String
  deriving DecidableEq, Repr

namespace Disk

/-- The entry at a place. -/
def entry? (disk : Disk) (place : List String) : Option Entry :=
  if place.isEmpty then some .directory else disk.entries.lookup place

/-- The file system with an entry at a place. -/
def put (disk : Disk) (place : List String) (entry : Entry) : Disk :=
  { disk with entries := (place, entry) :: disk.entries.filter (·.1 != place) }

/-- The most bytes of a name. -/
def maxNameSize : Nat := 255

/-- The most bytes of a path. -/
def maxPathSize : Nat := 4095

/-- Follow the parts of a path. The last name need not be there. -/
def follow (disk : Disk) (place : List String) : List String → Except FileError (List String)
  | [] => .ok place
  | part :: rest =>
    match disk.entry? place with
    | none => .error .notFound
    | some (.file _) => .error .notADirectory
    | some .directory =>
      if Path.isIdle part then follow disk place rest
      else if part == ".." then follow disk place.dropLast rest
      else if maxNameSize < part.utf8ByteSize then .error .nameTooLong
      else
        let next := place ++ [part]
        if (disk.entry? next).isNone && !rest.isEmpty then .error .notFound
        else follow disk next rest

/-- The place that a path leads to. -/
def locate (disk : Disk) (path : String) : Except FileError (List String) :=
  if maxPathSize < path.utf8ByteSize then .error .nameTooLong
  else disk.follow (if path.startsWith "/" then [] else disk.current) (Path.parts path)

/-- The entry that a path leads to. -/
def find? (disk : Disk) (path : String) : Option Entry :=
  match disk.locate path with
  | .ok place => disk.entry? place
  | .error _ => none

/-- The content of a file. -/
def read (disk : Disk) (path : String) : Except FileError String :=
  (disk.locate path).bind fun place =>
    match disk.entry? place with
    | some (.file content) => .ok content
    | some .directory => .error .isADirectory
    | none => .error .notFound

/-- The file system with a file that a path leads to. -/
def write (disk : Disk) (path content : String) : Except FileError Disk :=
  if path.endsWith "/" ∧ path.utf8ByteSize ≤ maxPathSize then .error .isADirectory
  else (disk.locate path).bind fun place =>
    if disk.entry? place = some .directory then .error .isADirectory
    else .ok (disk.put place (.file content))

/-- The file system with one more directory. -/
def makeOne (disk : Disk) (path : String) : Except FileError Disk :=
  (disk.locate path).bind fun place =>
    if (disk.entry? place).isSome then .error .alreadyExists else .ok (disk.put place .directory)

/-- The file system with a directory and those that hold it, of which at most `fuel` are missing. A
directory that is already there is as good as a new one. -/
def make : Nat → Disk → String → Except FileError Disk
  | fuel, disk, path =>
    let orThere (disk : Disk) (error : FileError) : Except FileError Disk :=
      if disk.find? path = some .directory then .ok disk else .error error
    match disk.makeOne path with
    | .ok disk => .ok disk
    | .error .notFound =>
      match fuel with
      | 0 => .error .notFound
      | fuel + 1 =>
        (make fuel disk (Path.parent path)).bind fun disk =>
          match disk.makeOne path with
          | .ok disk => .ok disk
          | .error error => orThere disk error
    | .error error => orThere disk error

/-- A file system that holds the files of the given paths, and its current directory. -/
def ofFiles (current : String) (files : List (String × String)) : Disk :=
  let start : Disk := ⟨[], []⟩
  let make (disk : Disk) (path : String) : Disk :=
    ((disk.make (Path.parts path).length path).toOption).getD disk
  let disk := files.foldl (fun disk (path, content) =>
    let disk := make disk (Path.parent path)
    ((disk.write path content).toOption).getD disk) (make start current)
  { disk with current := (disk.locate current).toOption.getD [] }

end Disk

/-- The effects of commands on a file system in memory, with the given environment variables and
standard input. -/
def Host.ofDisk (settings : List (String × String)) (input : String) : Host (StateM Disk) where
  environment name := return settings.lookup name
  currentDirectory := return "/" ++ "/".intercalate (← get).current
  isFile path := return match (← get).find? path with
    | some (.file _) => true
    | _ => false
  isThere path := return ((← get).find? path).isSome
  read path := return (← get).read path
  readInput := return .ok input
  makeDirectory path := do
    match (← get).make (Path.parts path).length path with
    | .ok disk => set disk; return .ok ()
    | .error error => return .error error
  write path content := do
    match (← get).write path content with
    | .ok disk => set disk; return .ok ()
    | .error error => return .error error

end BracketQuery.CommandLine
