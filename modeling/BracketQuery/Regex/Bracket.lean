import BracketQuery.Regex.Escape

/-!
Reading classes in brackets. A class is a union of characters, ranges, classes by name and classes
in brackets; unions are combined from the left to the right.
-/

namespace BracketQuery.Regex

/-- The classes of ASCII characters that have a name. -/
def asciiClasses : List (String × List (Nat × Nat)) := [
  ("alnum", [(48, 57), (65, 90), (97, 122)]),
  ("alpha", [(65, 90), (97, 122)]),
  ("ascii", [(0, 127)]),
  ("blank", [(9, 9), (32, 32)]),
  ("cntrl", [(0, 31), (127, 127)]),
  ("digit", [(48, 57)]),
  ("graph", [(33, 126)]),
  ("lower", [(97, 122)]),
  ("print", [(32, 126)]),
  ("punct", [(33, 47), (58, 64), (91, 96), (123, 126)]),
  ("space", [(9, 13), (32, 32)]),
  ("upper", [(65, 90)]),
  ("word", [(48, 57), (65, 90), (95, 95), (97, 122)]),
  ("xdigit", [(48, 57), (65, 70), (97, 102)])]

/-- A class by its name between colons, if the bracket at the cursor opens one. -/
def readAsciiClass? (cursor : Cursor) : Option (ClassItem × Cursor) := do
  let named ← cursor.after? "[:"
  let (negated, named) := match named.after? "^" with
    | some named => (true, named)
    | none => (false, named)
  let name := named.rest.takeWhile (· != ':')
  let after ← (named.pass name.length).after? ":]"
  let (_, ranges) ← asciiClasses.find? fun (known, _) => known.toList == name
  some (.ascii ⟨cursor.place, after.place⟩ ranges negated, after)

/-- One character of a class, or what a backslash starts. -/
def readClassAtom (cursor : Cursor) : Reading (Span × Atom) :=
  match cursor.rest with
  | [] => cursor.failHere .unclosedClass
  | '\\' :: _ => readEscape cursor
  | c :: _ =>
    let span : Span := ⟨cursor.place, cursor.place + 1⟩
    .ok ((span, .literal ⟨span, c, false⟩), cursor.next)

/-- The part of a class that an atom is. -/
def itemOf (span : Span) (atom : Atom) : Except SyntaxError ClassItem :=
  match atom with
  | .literal _ | .short .. | .property .. => .ok (.atom span atom)
  | .dot | .assertion _ => fail .classEscape span.start span.stop

/-- The bound of a range that an atom is. -/
def boundOf (span : Span) (atom : Atom) : Except SyntaxError Literal :=
  match atom with
  | .literal literal => .ok literal
  | _ => fail .classRangeBound span.start span.stop

/-- A character, a range or a class behind a backslash, in a class that is opened at the given
place. -/
def readRange (opening : Span) (cursor : Cursor) : Except SyntaxError (ClassItem × Cursor) := do
  let unclosed {α : Type} : Except SyntaxError α := fail .unclosedClass opening.start opening.stop
  let ((span, atom), cursor) ← readClassAtom cursor
  let cursor := cursor.passSpace
  match cursor.rest with
  | [] => unclosed
  | '-' :: _ =>
    if cursor.peek? = some ']' ∨ cursor.peek? = some '-' then
      (itemOf span atom).map fun item => (item, cursor)
    else
      let cursor := cursor.step
      if cursor.rest.isEmpty then unclosed
      else
        let ((lastSpan, lastAtom), cursor) ← readClassAtom cursor
        let first ← boundOf span atom
        let last ← boundOf lastSpan lastAtom
        if last.char < first.char then fail .classRangeOrder span.start lastSpan.stop
        else .ok (.range ⟨span.start, lastSpan.stop⟩ first last, cursor)
  | _ => (itemOf span atom).map fun item => (item, cursor)

/-- A class that has been opened: its place so far, whether it is negated, and its first parts. -/
structure Opening where
  span : Span
  negated : Bool
  items : List ClassItem

/-- The hyphens at the start of a class, which stand for themselves; there are at most `fuel`. -/
def readHyphens : (fuel : Nat) → (start : Nat) → Cursor → Reading (List ClassItem)
  | 0, _, cursor => .ok ([], cursor)
  | fuel + 1, start, cursor =>
    match cursor.rest with
    | '-' :: _ =>
      let span : Span := ⟨cursor.place, cursor.place + 1⟩
      let cursor := cursor.step
      if cursor.rest.isEmpty then fail .unclosedClass start start
      else
        (readHyphens fuel start cursor).map fun (items, cursor) =>
          (.atom span (.literal ⟨span, '-', false⟩) :: items, cursor)
    | _ => .ok ([], cursor)

/-- The bracket that opens a class, and the characters behind it that could not stand elsewhere. -/
def readOpening (cursor : Cursor) : Except SyntaxError (Opening × Cursor) := do
  let start := cursor.place
  let step (cursor : Cursor) : Except SyntaxError Cursor :=
    let cursor := cursor.step
    if cursor.rest.isEmpty then cursor.failSince .unclosedClass start else .ok cursor
  let cursor ← step cursor
  let (negated, cursor) ←
    if cursor.rest.head? = some '^' then (step cursor).map (true, ·) else .ok (false, cursor)
  let (items, cursor) ← readHyphens cursor.rest.length start cursor
  if items.isEmpty && cursor.rest.head? = some ']' then
    let span : Span := ⟨cursor.place, cursor.place + 1⟩
    let cursor ← step cursor
    .ok (⟨⟨start, cursor.place⟩, negated, [.atom span (.literal ⟨span, ']', false⟩)]⟩, cursor)
  else .ok (⟨⟨start, cursor.place⟩, negated, items⟩, cursor)

/-- The operation whose sign comes next. -/
def operationAt? (cursor : Cursor) : Option SetOperation :=
  match cursor.rest with
  | '&' :: '&' :: _ => some .intersection
  | '-' :: '-' :: _ => some .difference
  | '~' :: '~' :: _ => some .symmetricDifference
  | _ => none

/-- The union of some parts; an empty one stands at the given place. -/
def unionOf (place : Nat) (items : List ClassItem) : ClassSet :=
  match items with
  | [] => .union ⟨place, place⟩ []
  | item :: _ => .union ⟨item.span.start, (items.getLast?.getD item).span.stop⟩ items

/-- A set that is combined with the one before it. -/
def combine (before : Option (ClassSet × SetOperation)) (set : ClassSet) : ClassSet :=
  match before with
  | none => set
  | some (left, operation) =>
    .combination ⟨left.span.start, set.span.stop⟩ operation left set

/-- What stands in a class up to its end, in at most `fuel` parts: `before` is what the current
union is combined with, `items` are its parts so far, and `place` is where it starts. -/
def readSet : (fuel : Nat) → (opening : Span) → (before : Option (ClassSet × SetOperation)) →
    (place : Nat) → (items : List ClassItem) → Cursor → Except SyntaxError (ClassSet × Cursor)
  | 0, opening, _, _, _, _ => fail .unclosedClass opening.start opening.stop
  | fuel + 1, opening, before, place, items, cursor => do
    let cursor := cursor.passSpace
    let goOn (item : ClassItem) (cursor : Cursor) : Except SyntaxError (ClassSet × Cursor) :=
      readSet fuel opening before place (items ++ [item]) cursor
    match cursor.rest with
    | [] => fail .unclosedClass opening.start opening.stop
    | ']' :: _ => .ok (combine before (unionOf place items), cursor.next)
    | '[' :: _ =>
      match readAsciiClass? cursor with
      | some (item, cursor) => goOn item cursor
      | none =>
        let (inner, after) ← readOpening cursor
        let (set, after) ← readSet fuel inner.span none after.place inner.items after
        goOn (.bracketed ⟨cursor.place, after.place⟩ inner.negated set) after
    | _ =>
      match operationAt? cursor with
      | some operation =>
        let after := cursor.pass 2
        readSet fuel opening (some (combine before (unionOf place items), operation)) after.place []
          after
      | none =>
        let (item, after) ← readRange opening cursor
        goOn item after

/-- A class in brackets at the cursor. -/
def readBracketed (cursor : Cursor) : Except SyntaxError (Node × Cursor) := do
  let (opening, after) ← readOpening cursor
  let (set, after) ←
    readSet (after.rest.length + 1) opening.span none after.place opening.items after
  .ok (.bracketed ⟨cursor.place, after.place⟩ opening.negated set, after)

end BracketQuery.Regex
