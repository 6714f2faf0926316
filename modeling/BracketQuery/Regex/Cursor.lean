import BracketQuery.Regex.Error
import BracketQuery.Text.Blank

/-!
Places in a regular expression that is being read. Blanks and comments are passed over where they do
not count.
-/

namespace BracketQuery.Regex

/-- What is left of an expression, and what has been learnt from the part before it. -/
structure Cursor where
  rest : List Char
  /-- How many characters have been read. -/
  place : Nat
  /-- Whether blanks and comments do not count. -/
  spaced : Bool
  /-- The names of groups, with their places. -/
  names : List (List Char × Span)

/-- The reading of a part of an expression. -/
abbrev Reading (α : Type) := Except SyntaxError (α × Cursor)

/-- A mistake between two places. -/
def fail {α : Type} (cause : Cause) (start stop : Nat) : Except SyntaxError α :=
  .error ⟨cause, ⟨start, stop⟩, none⟩

/-- The text behind blanks and comments, and its place. -/
def passBlanks : (comment : Bool) → List Char → Nat → List Char × Nat
  | _, [], place => ([], place)
  | true, c :: rest, place => passBlanks (c != '\n') rest (place + 1)
  | false, c :: rest, place =>
    if Text.isBlank c then passBlanks false rest (place + 1)
    else if c = '#' then passBlanks true rest (place + 1)
    else (c :: rest, place)

namespace Cursor

/-- The start of an expression. -/
def ofPattern (pattern : List Char) : Cursor := ⟨pattern, 0, false, []⟩

/-- The place behind the next character. -/
def next (cursor : Cursor) : Cursor :=
  match cursor.rest with
  | [] => cursor
  | _ :: rest => { cursor with rest, place := cursor.place + 1 }

/-- The place behind some characters. -/
def pass (cursor : Cursor) (count : Nat) : Cursor :=
  { cursor with
    rest := cursor.rest.drop count
    place := cursor.place + min count cursor.rest.length }

/-- The place behind blanks and comments, where they do not count. -/
def passSpace (cursor : Cursor) : Cursor :=
  if cursor.spaced then
    let (rest, place) := passBlanks false cursor.rest cursor.place
    { cursor with rest, place }
  else cursor

/-- The place behind the next character, and behind blanks and comments. -/
def step (cursor : Cursor) : Cursor := cursor.next.passSpace

/-- The place behind a text, if that is what comes next. -/
def after? (cursor : Cursor) (text : String) : Option Cursor :=
  if text.toList.isPrefixOf cursor.rest then some (cursor.pass text.length) else none

/-- The character behind the next one. Blanks do not count, nor does the sign of a comment; but what
a comment says does. -/
def peek? (cursor : Cursor) : Option Char :=
  let ahead := cursor.rest.drop 1
  if !cursor.spaced then ahead.head?
  else
    let rest := ahead.dropWhile Text.isBlank
    let rest := if rest.head? = some '#' then (rest.drop 1).dropWhile Text.isBlank else rest
    (rest.head?).or ahead.head?

/-- A mistake from a place up to here. -/
def failSince {α : Type} (cursor : Cursor) (cause : Cause) (start : Nat) : Except SyntaxError α :=
  fail cause start cursor.place

/-- A mistake at this place, which is no character. -/
def failHere {α : Type} (cursor : Cursor) (cause : Cause) : Except SyntaxError α :=
  fail cause cursor.place cursor.place

/-- A mistake in the next character. -/
def failAtChar {α : Type} (cursor : Cursor) (cause : Cause) : Except SyntaxError α :=
  fail cause cursor.place (cursor.place + 1)

end Cursor

end BracketQuery.Regex
