import BracketQuery.Regex.Property

/-!
Regular expressions as they are written. Every part knows the place where it is written.
-/

namespace BracketQuery.Regex

/-- A part of a text: the numbers of characters before its start and before its end. -/
structure Span where
  start : Nat
  stop : Nat
  deriving DecidableEq, Repr

/-- What can be switched on and off. -/
inductive Flag where
  /-- Letters stand for their other case as well. -/
  | anyCase
  /-- Lines have starts and ends of their own. -/
  | lines
  /-- A dot stands for line breaks as well. -/
  | dotAll
  /-- Repetitions are short where they are not marked. -/
  | short
  /-- Classes and cases are those of all characters, and not of ASCII alone. -/
  | unicode
  /-- A carriage return ends a line as well. -/
  | carriageReturns
  /-- Blanks and comments do not count. -/
  | spaced
  deriving DecidableEq, Repr

/-- The flag of a letter. -/
def Flag.ofLetter? : Char → Option Flag
  | 'i' => some anyCase
  | 'm' => some lines
  | 's' => some dotAll
  | 'U' => some short
  | 'u' => some unicode
  | 'R' => some carriageReturns
  | 'x' => some spaced
  | _ => none

/-- Flags with what becomes of them. -/
abbrev FlagChanges := List (Flag × Bool)

/-- Where something has to be, without taking any characters. -/
inductive Assertion where
  | lineStart
  | lineEnd
  | textStart
  | textEnd
  /-- Between a word and something else. -/
  | wordBoundary
  | noWordBoundary
  | wordStart
  | wordEnd
  /-- Behind something that is no part of a word. -/
  | wordStartHalf
  /-- Before something that is no part of a word. -/
  | wordEndHalf
  deriving DecidableEq, Repr

/-- A single character. One that is written as a byte may be no character outside of Unicode. -/
structure Literal where
  span : Span
  char : Char
  isByte : Bool
  deriving DecidableEq, Repr

/-- The classes that have a letter of their own. -/
inductive ShortClass where
  | digit
  | space
  | word
  deriving DecidableEq, Repr

/-- The least parts of an expression. -/
inductive Atom where
  | literal (literal : Literal)
  | dot
  | assertion (assertion : Assertion)
  | short (kind : ShortClass) (negated : Bool)
  | property (property : Property) (negated : Bool)
  deriving DecidableEq, Repr

/-- What two sets are combined to. -/
inductive SetOperation where
  | intersection
  | difference
  | symmetricDifference
  deriving DecidableEq, Repr

mutual

/-- What stands in brackets. -/
inductive ClassSet where
  | union (span : Span) (items : List ClassItem)
  | combination (span : Span) (operation : SetOperation) (left right : ClassSet)

/-- One of the parts of a class. -/
inductive ClassItem where
  | atom (span : Span) (atom : Atom)
  | range (span : Span) (first last : Literal)
  | ascii (span : Span) (ranges : List (Nat × Nat)) (negated : Bool)
  | bracketed (span : Span) (negated : Bool) (set : ClassSet)

end

/-- The place of a set. -/
def ClassSet.span : ClassSet → Span
  | union span _ | combination span .. => span

/-- The place of a part of a class. -/
def ClassItem.span : ClassItem → Span
  | atom span _ | range span .. | ascii span .. | bracketed span .. => span

/-- An expression. -/
inductive Node where
  | empty (span : Span)
  | flags (span : Span) (changes : FlagChanges)
  | atom (span : Span) (atom : Atom)
  | bracketed (span : Span) (negated : Bool) (set : ClassSet)
  | repetition (span : Span) (node : Node) (least : Nat) (most : Option Nat)
  | group (span : Span) (changes : FlagChanges) (node : Node)
  | sequence (span : Span) (nodes : List Node)
  | choice (span : Span) (nodes : List Node)

namespace Node

/-- The place of an expression. -/
def span : Node → Span
  | empty span | flags span _ | atom span _ | bracketed span .. | repetition span .. | group span ..
  | sequence span _ | choice span _ => span

/-- The sequence of some expressions. -/
def ofSequence (span : Span) : List Node → Node
  | [] => empty span
  | [node] => node
  | nodes => sequence span nodes

/-- The choice between some expressions. -/
def ofChoice (span : Span) : List Node → Node
  | [node] => node
  | nodes => choice span nodes

end Node

end BracketQuery.Regex
