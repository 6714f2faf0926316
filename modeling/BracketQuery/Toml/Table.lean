import BracketQuery.Toml.Basic

/-!
How a table grows. A key or a header with dots leads through tables, which are made where they are
missing; what has been completed cannot be reopened.
-/

namespace BracketQuery.Toml

/-- The value of a key. -/
def find? (entries : Entries) (name : String) : Option Value :=
  (entries.find? fun entry => entry.1.name == name).map Prod.snd

/-- The entries with another value for a key that they have. -/
def replace (entries : Entries) (name : String) (value : Value) : Entries :=
  entries.map fun entry => if entry.1.name == name then (entry.1, value) else entry

/-- The entries without those of a key. -/
def remove (entries : Entries) (name : String) : Entries :=
  entries.filter fun entry => entry.1.name != name

/-- Which tables a path may lead through. -/
inductive Route where
  /-- The path of a header passes all tables but those in braces. -/
  | header
  /-- The path of a key passes only tables that have neither header nor braces. -/
  | key
  deriving DecidableEq, Repr

/-- Whether a path may lead through a table. -/
def Route.passes : Route → Origin → Bool
  | header, origin => origin != .braces
  | key, origin => origin == .implied || origin == .dotted

/-- What becomes of a table that a path makes. -/
def Route.origin : Route → Origin
  | header => .implied
  | key => .dotted

/-- Change the table at the end of a path, if the path leads to one. A list of tables stands for its
last table. -/
def modifyAt {α : Type} (route : Route) (change : Origin → Entries → Option (Entries × α)) :
    List Key → Origin → Entries → Option (Entries × α)
  | [], origin, entries => change origin entries
  | key :: path, _, entries =>
    match find? entries key.name with
    | none =>
      (modifyAt route change path route.origin []).map fun (inner, result) =>
        (entries ++ [(key, .table none route.origin inner)], result)
    | some (.table mark origin inner) =>
      if route.passes origin then
        (modifyAt route change path origin inner).map fun (inner, result) =>
          (replace entries key.name (.table mark origin inner), result)
      else none
    | some (.tables elements) =>
      match elements.getLast? with
      | some (.table mark origin inner) =>
        (modifyAt route change path origin inner).map fun (inner, result) =>
          let tables := elements.dropLast ++ [.table mark origin inner]
          (replace entries key.name (.tables tables), result)
      | _ => none
    | some _ => none

/-- Add an entry under a key with dots, of which `path` holds all parts but the last. -/
def insertAt (path : List Key) (key : Key) (value : Value) (entries : Entries) : Option Entries :=
  let insert (origin : Origin) (inner : Entries) : Option (Entries × Unit) :=
    if (!path.isEmpty && origin != .dotted) || (find? inner key.name).isSome then none
    else some (inner ++ [(key, value)], ())
  (modifyAt .key insert path .header entries).map Prod.fst

/-- The table of entries under keys with dots. -/
def tableOf (entries : List (List Key × Key × Value)) : Option Entries :=
  entries.foldlM (fun table (path, key, value) => insertAt path key value table) []

end BracketQuery.Toml
