import BracketQuery.Toml.Reader

/-!
Documents: lines of entries and headers. An entry belongs to the table of the header before it, or
to the document where there is none. A table is put in its place when its last line has been read.
-/

namespace BracketQuery.Toml

/-- A header and the entries read since. -/
structure Section where
  path : List Key
  key : Key
  /-- Whether the header may be repeated, each time for another table of one list. -/
  repeated : Bool
  mark : Mark
  entries : Entries
  deriving Repr

/-- What has been read of a document: the entries in their place, and the section that is open. -/
structure Draft where
  root : Entries
  current : Option Section
  deriving Repr

namespace Section

/-- The table of a section. -/
def table (part : Section) : Value := .table (some part.mark) .header part.entries

/-- Put a section in its place among the tables that the headers name. -/
def close (part : Section) (root : Entries) : Option Entries :=
  let place (_ : Origin) (entries : Entries) : Option (Entries × Unit) :=
    match part.repeated, find? entries part.key.name with
    | true, some (.tables elements) =>
      some (replace entries part.key.name (.tables (elements ++ [part.table])), ())
    | false, none => some (entries ++ [(part.key, part.table)], ())
    | _, _ => none
  (modifyAt .header place part.path .header root).map Prod.fst

/-- Make place for the section of a header. A table that has only been named on the way to others is
taken from its place and goes on as the table of the header. -/
def begin? (part : Section) (root : Entries) : Option (Entries × Section) :=
  let take (_ : Origin) (entries : Entries) : Option (Entries × Entries) :=
    match part.repeated, find? entries part.key.name with
    | true, none => some (entries ++ [(part.key, .tables [])], [])
    | true, some (.tables _) => some (entries, [])
    | false, none => some (entries, [])
    | false, some (.table _ .implied inner) => some (remove entries part.key.name, inner)
    | _, _ => none
  (modifyAt .header take part.path .header root).map fun (root, entries) =>
    (root, { part with entries })

end Section

namespace Draft

/-- The entries of the document with the open section in its place. -/
def close (draft : Draft) : Option Entries :=
  match draft.current with
  | none => some draft.root
  | some part => part.close draft.root

/-- Go on with the section of a header. -/
def addHeader (draft : Draft) (part : Section) : Option Draft :=
  draft.close.bind fun root =>
    (part.begin? root).map fun (root, part) => ⟨root, some part⟩

/-- Add an entry to the open section. -/
def addEntry (draft : Draft) (path : List Key) (key : Key) (value : Value) : Option Draft :=
  match draft.current with
  | none => (insertAt path key value draft.root).map fun root => { draft with root }
  | some part => (insertAt path key value part.entries).map fun entries =>
    { draft with current := some { part with entries } }

end Draft

/-- What a line changes, or a fault at the beginning of the line. -/
def changeAt (text : List Char) (draft : Option Draft) (rest : List Char) : Reading Draft :=
  match draft with
  | some draft => .ok (draft, rest)
  | none => refuse text

/-- A header and the end of its line. -/
def readHeader (draft : Draft) (text : List Char) : Reading Draft :=
  let finish (repeated : Bool) (closing inner : List Char) : Reading Draft :=
    commit ((readKey inner).bind fun ((path, key), rest) =>
      (expectWord closing rest).bind fun rest =>
        (readTrailing rest).bind fun rest =>
          changeAt text (draft.addHeader ⟨path, key, repeated, text.length, []⟩) rest)
  match text with
  | '[' :: '[' :: inner => finish true [']', ']'] inner
  | '[' :: inner => if inner.isEmpty then refuse text else finish false [']'] inner
  | _ => miss text

/-- An entry and the end of its line. -/
def readLine (draft : Draft) (text : List Char) : Reading Draft :=
  commit ((readEntryOfLine text).bind fun ((path, key, value), rest) =>
    (readTrailing rest).bind fun rest => changeAt text (draft.addEntry path key value) rest)
where
  /-- A key and its value. -/
  readEntryOfLine (text : List Char) : Reading (List Key × Key × Value) :=
    (readKey text).bind fun ((path, key), rest) =>
      (expect '=' rest).bind fun rest =>
        (readValue (depthLimit - 1) (skipBlanks rest)).map fun (value, rest) =>
          ((path, key, value), rest)

/-- The lines of a document, in at most `fuel` steps. -/
def readAll : Nat → Draft → List Char → Except Fault Draft
  | 0, _, text => refuse text
  | fuel + 1, draft, text =>
    let text := skipBlanks text
    match text with
    | [] => .ok draft
    | '#' :: _ => (commit (readLineEnd (skipComment text))).bind (readAll fuel draft)
    | '[' :: _ => (readHeader draft text).bind fun (draft, rest) => readAll fuel draft rest
    | '\n' :: _ | '\r' :: _ =>
      (failAt text (commit (readNewline text))).bind (readAll fuel draft)
    | _ => (readLine draft text).bind fun (draft, rest) => readAll fuel draft rest

/-- The entries of a document, behind a byte order mark that it may begin with. -/
def parse (text : List Char) : Except Mark Entries :=
  let content := match text with
    | '\ufeff' :: rest => rest
    | _ => text
  match readAll (content.length + 2) ⟨[], none⟩ content with
  | .ok draft => match draft.close with
    | some entries => .ok entries
    | none => .error 0
  | .error fault => .error fault.mark

end BracketQuery.Toml
