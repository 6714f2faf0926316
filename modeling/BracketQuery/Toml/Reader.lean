import BracketQuery.Toml.Number
import BracketQuery.Toml.Quoted
import BracketQuery.Toml.Table
import BracketQuery.Toml.Time

/-!
Keys and values. Arrays and tables in braces may be nested in each other to a limited depth, on
which `readValue` recurses; the loop over the items of one of them is bounded by the length of the
text.
-/

namespace BracketQuery.Toml

/-- A character of a key without quotation marks. -/
def isKeyChar (c : Char) : Bool := c.isAlphanum || c == '-' || c == '_'

/-- One part of a key. -/
def readKeyPart (text : List Char) : Reading Key :=
  let named (name : List Char) : Key := ⟨String.ofList name, text.length⟩
  match text with
  | '"' :: rest => (readBasic 0 rest).map fun (name, rest) => (named name, rest)
  | '\x27' :: rest => (readLiteral rest).map fun (name, rest) => (named name, rest)
  | _ =>
    let name := text.takeWhile isKeyChar
    if name.isEmpty then miss text else .ok (named name, text.dropWhile isKeyChar)

/-- The parts of a key behind a part, each behind a dot; in at most `fuel` steps. A dot without a
part behind it does not belong to the key. -/
def readKeyParts : Nat → List Char → Reading (List Key)
  | fuel + 1, '.' :: rest =>
    match readKeyPart (skipBlanks rest) with
    | .ok (key, behind) =>
      (readKeyParts fuel (skipBlanks behind)).map fun (keys, rest) => (key :: keys, rest)
    | .error ⟨_, false⟩ => .ok ([], '.' :: rest)
    | .error fault => .error fault
  | _, text => .ok ([], text)

/-- How many parts a key may not reach, and how deep values may not be nested. -/
def depthLimit : Nat := 80

/-- A key, by the parts before the last and the last part. -/
def readKey (text : List Char) : Reading (List Key × Key) :=
  (readKeyPart (skipBlanks text)).bind fun (first, rest) =>
    (readKeyParts rest.length (skipBlanks rest)).bind fun (more, rest) =>
      if depthLimit ≤ more.length + 1 then miss text
      else
        let keys := first :: more
        .ok ((keys.dropLast, keys.getLast?.getD first), rest)

/-- The values of an array and its closing bracket, in at most `fuel` steps. -/
def readElements (readValue : List Char → Reading Value) : Nat → List Char → Reading (List Value)
  | 0, text => refuse text
  | fuel + 1, text =>
    (commit (skipTrivia text)).bind fun text =>
      match text with
      | ']' :: rest => .ok ([], rest)
      | _ =>
        match readValue text with
        | .error ⟨_, false⟩ => refuse text
        | .error fault => .error fault
        | .ok (value, rest) =>
          (commit (failAt text (skipTrivia rest))).bind fun rest =>
            match rest with
            | ',' :: rest =>
              (readElements readValue fuel rest).map fun (values, rest) => (value :: values, rest)
            | ']' :: rest => .ok ([value], rest)
            | _ => refuse rest

/-- An entry of a table in braces, and the blanks behind it. -/
def readEntry (readValue : List Char → Reading Value) (text : List Char) :
    Reading (List Key × Key × Value) :=
  (readKey text).bind fun ((path, key), rest) =>
    commit ((expect '=' rest).bind fun rest =>
      (readValue (skipBlanks rest)).map fun (value, rest) => ((path, key, value), skipBlanks rest))

/-- The entries behind an entry of a table in braces, each behind a comma; in at most `fuel` steps.
A comma without an entry behind it does not belong to the entries. -/
def readEntries (readValue : List Char → Reading Value) :
    Nat → List Char → Reading (List (List Key × Key × Value))
  | fuel + 1, ',' :: rest =>
    match readEntry readValue rest with
    | .ok (entry, behind) =>
      (readEntries readValue fuel behind).map fun (entries, rest) => (entry :: entries, rest)
    | .error ⟨_, false⟩ => .ok ([], ',' :: rest)
    | .error fault => .error fault
  | _, text => .ok ([], text)

/-- The rest of a table in braces. -/
def readBraces (readValue : List Char → Reading Value) (text : List Char) : Reading Entries :=
  let entries : Reading (List (List Key × Key × Value)) :=
    (optional (readEntry readValue) text).bind fun (first, rest) =>
      match first with
      | none => .ok ([], skipBlanks text)
      | some first =>
        (readEntries readValue rest.length rest).map fun (more, rest) => (first :: more, rest)
  commit (entries.bind fun (entries, rest) =>
    match tableOf entries with
    | none => refuse text
    | some table => (expect '\x7d' rest).map fun rest => (table, rest))

/-- A number, a date or a time. -/
def readNumeric (text : List Char) : Reading Value :=
  let mark := text.length
  orElse (fun text => (readDateTime text).map fun (written, rest) => (.dateTime mark written, rest))
    (orElse (fun text => (readFloat text).map fun (value, rest) => (.float mark value, rest))
      (fun text => (readInteger text).map fun (value, rest) => (.integer mark value, rest))) text

/-- A value that may hold so many levels of arrays and tables in braces. -/
def readValue : (levels : Nat) → List Char → Reading Value
  | levels, text =>
    let mark := text.length
    match text with
    | [] => miss []
    | '"' :: _ | '\x27' :: _ =>
      (readString text).map fun (chars, rest) => (.string mark (String.ofList chars), rest)
    | '[' :: rest =>
      match levels with
      | 0 => refuse text
      | levels + 1 =>
        (readElements (readValue levels) (rest.length + 1) rest).map fun (values, rest) =>
          (.array mark values, rest)
    | '\x7b' :: rest =>
      match levels with
      | 0 => refuse text
      | levels + 1 =>
        (readBraces (readValue levels) rest).map fun (entries, rest) =>
          (.table (some mark) .braces entries, rest)
    | 't' :: _ =>
      (commit (expectWord ['t', 'r', 'u', 'e'] text)).map fun rest => (.boolean mark true, rest)
    | 'f' :: _ =>
      (commit (expectWord ['f', 'a', 'l', 's', 'e'] text)).map fun rest =>
        (.boolean mark false, rest)
    | 'i' :: _ | 'n' :: _ => (readSpecial text).map fun (value, rest) => (.float mark value, rest)
    | c :: _ =>
      if c.isDigit || c == '+' || c == '-' then readNumeric text else miss text

end BracketQuery.Toml
