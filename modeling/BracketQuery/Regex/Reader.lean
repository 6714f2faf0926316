import BracketQuery.Regex.Bracket

/-!
Reading regular expressions: groups, flags, repetitions, and what they are made of.
-/

namespace BracketQuery.Regex

/-! ## Groups -/

/-- Whether a character may be part of the name of a group, and begin it. -/
def isNameChar (first : Bool) (c : Char) : Bool :=
  if c < '\x80' then
    c == '_' || c.isAlpha || (!first && (c.isDigit || c == '.' || c == '[' || c == ']'))
  else (Property.basic "alphabetic").has c ||
    (!first && (Property.inCategories ["nd", "nl", "no"]).has c)

/-- The name of a group, which an angle bracket ends. -/
def readName (cursor : Cursor) : Except SyntaxError (Cursor) :=
  let name := cursor.rest.takeWhile (· != '>')
  let stop := cursor.place + name.length
  let wrong? := (name.zipIdx).find? fun (c, i) => !isNameChar (i == 0) c
  match wrong? with
  | some (_, i) => fail .invalidName (cursor.place + i) (cursor.place + i + 1)
  | none =>
    if name.length = cursor.rest.length then fail .unfinishedName stop stop
    else if name.isEmpty then cursor.failHere .emptyName
    else
      let span : Span := ⟨cursor.place, stop⟩
      match cursor.names.find? (·.1 == name) with
      | some (_, earlier) => .error ⟨.duplicateName, span, some earlier⟩
      | none => .ok { cursor.pass (name.length + 1) with names := (name, span) :: cursor.names }

/-- Flags up to a colon or a bracket; a hyphen, which is no flag, stands before those that are
switched off. There are at most `fuel` more. -/
def readFlags : (fuel : Nat) → (items : List (Option Flag × Span)) → Cursor →
    Except SyntaxError (List (Option Flag × Span) × Cursor)
  | 0, _, cursor => cursor.failHere .unfinishedFlags
  | fuel + 1, items, cursor =>
    let span : Span := ⟨cursor.place, cursor.place + 1⟩
    let add (item : Option Flag) (repeated : Cause) :
        Except SyntaxError (List (Option Flag × Span) × Cursor) :=
      match items.find? (·.1 == item) with
      | some (_, earlier) => .error ⟨repeated, span, some earlier⟩
      | none => readFlags fuel (items ++ [(item, span)]) cursor.next
    match cursor.rest with
    | [] => cursor.failHere .unfinishedFlags
    | ':' :: _ | ')' :: _ =>
      match items.getLast? with
      | some (none, span) => fail .danglingNegation span.start span.stop
      | _ => .ok (items, cursor)
    | '-' :: _ => add none .repeatedNegation
    | c :: _ =>
      match Flag.ofLetter? c with
      | some flag => add (some flag) .duplicateFlag
      | none => cursor.failAtChar .unknownFlag

/-- What becomes of flags. -/
def changesOf (items : List (Option Flag × Span)) : FlagChanges :=
  let on := items.takeWhile (·.1.isSome)
  let off := items.dropWhile (·.1.isSome)
  (on.filterMap (·.1)).map (·, true) ++ (off.filterMap (·.1)).map (·, false)

/-- What an opening bracket starts: a change of flags, which is complete, or a group. -/
inductive GroupStart where
  | flags (changes : FlagChanges)
  | group (changes : FlagChanges)

/-- What the opening bracket at the cursor starts. -/
def readGroupStart (cursor : Cursor) : Except SyntaxError (GroupStart × Cursor) := do
  let start := cursor.place
  let cursor := cursor.step
  match ["?=", "?!", "?<=", "?<!"].findSome? cursor.after? with
  | some after => after.failSince .lookAround start
  | none =>
    match ["?P<", "?<"].findSome? cursor.after? with
    | some named => (readName named).map fun after => (.group [], after)
    | none =>
      match cursor.after? "?" with
      | none => .ok (.group [], cursor)
      | some flagged =>
        if flagged.rest.isEmpty then fail .unclosedGroup start (start + 1)
        else
          let (items, closing) ← readFlags (flagged.rest.length + 1) [] flagged
          if closing.rest.head? = some ')' then
            if items.isEmpty then cursor.failHere .nothingToRepeat
            else .ok (.flags (changesOf items), closing.next)
          else .ok (.group (changesOf items), closing.next)

/-! ## Repetitions -/

/-- The last of some expressions, which a sign at the cursor repeats, and those before it. -/
def takeRepeated (parts : List Node) (cursor : Cursor) : Except SyntaxError (Node × List Node) :=
  match parts.getLast? with
  | none | some (.empty _) | some (.flags ..) => cursor.failHere .nothingToRepeat
  | some node => .ok (node, parts.dropLast)

/-- Decimal digits, and blanks between them where these do not count; there are at most `fuel`. -/
def readDigits : (fuel : Nat) → Cursor → List Char × Cursor
  | 0, cursor => ([], cursor)
  | fuel + 1, cursor =>
    match cursor.rest with
    | [] => ([], cursor)
    | c :: _ =>
      if c.isDigit then
        let (more, cursor) := readDigits fuel cursor.step
        (c :: more, cursor)
      else ([], cursor)

/-- The place behind white space, which is passed over in any case. -/
def Cursor.passWhite (cursor : Cursor) : Cursor :=
  cursor.pass (cursor.rest.takeWhile Text.isBlank).length

/-- A number of repetitions, or what is wrong with it, and the place behind it. -/
def readCount (cursor : Cursor) : Except SyntaxError Nat × Cursor :=
  let cursor := cursor.passWhite
  let (digits, stop) := readDigits cursor.rest.length cursor
  let after := if Text.isBlank (stop.rest.headD 'x') then stop.passWhite.passSpace else stop
  let number := Text.decimalNumber digits
  if digits.isEmpty then (stop.failHere .missingCount, after)
  else if 2 ^ 32 ≤ number then (stop.failSince .invalidDecimal cursor.place, after)
  else (.ok number, after)

/-- The place behind the sign that a repetition is to be short, if it comes next. -/
def Cursor.passShort (cursor : Cursor) : Cursor :=
  if cursor.rest.head? = some '?' then cursor.next else cursor

/-- A repetition by a sign at the cursor. -/
def readRepetition (parts : List Node) (least : Nat) (most : Option Nat) (cursor : Cursor) :
    Except SyntaxError (List Node × Cursor) := do
  let (node, before) ← takeRepeated parts cursor
  let after := cursor.next.passShort
  .ok (before ++ [.repetition ⟨node.span.start, after.place⟩ node least most], after)

/-- A repetition by numbers in braces at the cursor. -/
def readCountedRepetition (parts : List Node) (cursor : Cursor) :
    Except SyntaxError (List Node × Cursor) := do
  let start := cursor.place
  let (node, before) ← takeRepeated parts cursor
  let checkOpen (cursor : Cursor) : Except SyntaxError Unit :=
    if cursor.rest.isEmpty then cursor.failSince .unclosedCount start else .ok ()
  let inside := cursor.step
  checkOpen inside
  let (first, closing) := readCount inside
  checkOpen closing
  let (least, most, closing) ←
    if closing.rest.head? = some ',' then do
      let behind := closing.step
      checkOpen behind
      if behind.rest.head? = some '\x7d' then
        let least ← first
        .ok (least, (none : Option Nat), behind)
      else
        let least ← first
        let (second, closing) := readCount behind
        let most ← second
        .ok (least, some most, closing)
    else
      let least ← first
      .ok (least, some least, closing)
  if closing.rest.head? ≠ some '\x7d' then closing.failSince .unclosedCount start
  else
    let after := closing.step.passShort
    if most.any (· < least) then after.failSince .countOrder start
    else .ok (before ++ [.repetition ⟨node.span.start, after.place⟩ node least most], after)

/-! ## Expressions -/

/-- A character, or what a backslash starts. -/
def readAtom (cursor : Cursor) : Except SyntaxError (Node × Cursor) :=
  let span : Span := ⟨cursor.place, cursor.place + 1⟩
  match cursor.rest with
  | [] => .ok (.empty ⟨cursor.place, cursor.place⟩, cursor)
  | '\\' :: _ => (readEscape cursor).map fun ((span, atom), cursor) => (.atom span atom, cursor)
  | '.' :: _ => .ok (.atom span .dot, cursor.next)
  | '^' :: _ => .ok (.atom span (.assertion .lineStart), cursor.next)
  | '$' :: _ => .ok (.atom span (.assertion .lineEnd), cursor.next)
  | c :: _ => .ok (.atom span (.literal ⟨span, c, false⟩), cursor.next)

/-- What has been read of a group: where its first alternative starts, the alternatives before the
current one, where that starts, and its parts so far. -/
structure Alternatives where
  start : Nat
  done : List Node
  current : Nat
  parts : List Node

namespace Alternatives

/-- Nothing yet. -/
def empty (place : Nat) : Alternatives := ⟨place, [], place, []⟩

/-- One more part. -/
def push (read : Alternatives) (node : Node) : Alternatives :=
  { read with parts := read.parts ++ [node] }

/-- One more alternative, of which the next one is separated. -/
def next (read : Alternatives) (bar : Nat) : Alternatives :=
  ⟨read.start, read.done ++ [.ofSequence ⟨read.current, bar⟩ read.parts], bar + 1, []⟩

/-- The expression that has been read up to a place. -/
def node (read : Alternatives) (stop : Nat) : Node :=
  .ofChoice ⟨read.start, stop⟩ (read.done ++ [.ofSequence ⟨read.current, stop⟩ read.parts])

end Alternatives

/-- What stands in a group up to its end, or in no group up to the end of the text, in at most
`fuel` parts. -/
def readAlternatives : (fuel : Nat) → (opening : Option Nat) → Alternatives → Cursor →
    Except SyntaxError (Node × Cursor)
  | 0, _, read, cursor => .ok (read.node cursor.place, cursor)
  | fuel + 1, opening, read, cursor => do
    let cursor := cursor.passSpace
    match cursor.rest with
    | [] =>
      match opening with
      | some start => fail .unclosedGroup start (start + 1)
      | none => .ok (read.node cursor.place, cursor)
    | ')' :: _ =>
      match opening with
      | some _ => .ok (read.node cursor.place, cursor.next)
      | none => cursor.failAtChar .unopenedGroup
    | '|' :: _ => readAlternatives fuel opening (read.next cursor.place) cursor.next
    | '(' :: _ =>
      match ← readGroupStart cursor with
      | (.flags changes, after) =>
        let node := Node.flags ⟨cursor.place, after.place⟩ changes
        let spaced := (changes.lookup .spaced).getD cursor.spaced
        readAlternatives fuel opening (read.push node) { after with spaced }
      | (.group changes, inside) =>
        let spaced := (changes.lookup .spaced).getD cursor.spaced
        let (node, after) ←
          readAlternatives fuel (some cursor.place) (.empty inside.place) { inside with spaced }
        let group := Node.group ⟨cursor.place, after.place⟩ changes node
        readAlternatives fuel opening (read.push group) { after with spaced := cursor.spaced }
    | '[' :: _ =>
      let (node, after) ← readBracketed cursor
      readAlternatives fuel opening (read.push node) after
    | '?' :: _ =>
      let (parts, after) ← readRepetition read.parts 0 (some 1) cursor
      readAlternatives fuel opening { read with parts } after
    | '*' :: _ =>
      let (parts, after) ← readRepetition read.parts 0 none cursor
      readAlternatives fuel opening { read with parts } after
    | '+' :: _ =>
      let (parts, after) ← readRepetition read.parts 1 none cursor
      readAlternatives fuel opening { read with parts } after
    | '\x7b' :: _ =>
      let (parts, after) ← readCountedRepetition read.parts cursor
      readAlternatives fuel opening { read with parts } after
    | _ =>
      let (node, after) ← readAtom cursor
      readAlternatives fuel opening (read.push node) after

/-- The expression that a text writes. -/
def readPattern (pattern : List Char) : Except SyntaxError Node :=
  (readAlternatives (pattern.length + 1) none (.empty 0) (.ofPattern pattern)).map (·.1)

end BracketQuery.Regex
