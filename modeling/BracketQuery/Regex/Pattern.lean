import BracketQuery.Regex.Property

/-!
Regular expressions by what they match. A set of places in a text is a list of marks, one for each
place: before the first character, between two characters, and behind the last one. An expression
leads from a set of places to the set of the places where a match ends that starts at one of them.
-/

namespace BracketQuery.Regex

/-- A condition on the characters before and behind a place. -/
abbrev Condition := Option Char → Option Char → Bool

/-- What a regular expression matches. -/
inductive Pattern where
  | empty
  | set (set : CharSet)
  | condition (condition : Condition)
  | sequence (first second : Pattern)
  | choice (first second : Pattern)
  | repetition (pattern : Pattern) (least : Nat) (most : Option Nat)

namespace Pattern

/-- The sequence of some patterns. -/
def sequenceOf (patterns : List Pattern) : Pattern := patterns.foldr sequence empty

/-- The choice between some patterns. -/
def choiceOf : List Pattern → Pattern
  | [] => empty
  | [pattern] => pattern
  | pattern :: patterns => choice pattern (choiceOf patterns)

/-! ## Matching -/

/-- A set of places in a text. -/
abbrev Places := List Bool

/-- The places behind a character of a set. -/
def Places.behind (set : CharSet) (text : List Char) (places : Places) : Places :=
  false :: List.zipWith (fun here c => here && set.has c) places text

/-- The places that meet a condition. -/
def Places.meeting (condition : Condition) (text : List Char) (places : Places) : Places :=
  List.zipWith (fun here sides => here && condition sides.1 sides.2) places
    ((none :: text.map some).zip (text.map some ++ [none]))

/-- The places of two sets. -/
def Places.union (a b : Places) : Places := List.zipWith or a b

/-- Go on from some places so many times, unless nothing changes any more. -/
def iterate (step : Places → Places) : Nat → Places → Places
  | 0, places => places
  | count + 1, places =>
    let next := step places
    if next == places then places else iterate step count next

/-- The places where a match ends that starts at one of the given places. A repetition need not be
followed further than there are places: by then, another round does not change them. -/
def ends (text : List Char) : Pattern → Places → Places
  | empty, places => places
  | set chars, places => places.behind chars text
  | condition holds, places => places.meeting holds text
  | sequence first second, places => second.ends text (first.ends text places)
  | choice first second, places => (first.ends text places).union (second.ends text places)
  | repetition pattern least most, places =>
    let rounds := text.length + 2
    let start := iterate (pattern.ends text) (min least rounds) places
    let more := match most with
      | some most => min (most - least) rounds
      | none => rounds
    iterate (fun places => places.union (pattern.ends text places)) more start

/-- Whether a part of a text matches. -/
def isIn (pattern : Pattern) (text : List Char) : Bool :=
  (pattern.ends text (List.replicate (text.length + 1) true)).contains true

/-! ## Size -/

/-- Whether all matches are empty. -/
def isWidthless : Pattern → Bool
  | empty | condition _ => true
  | set _ => false
  | sequence first second | choice first second => first.isWidthless && second.isWidthless
  | repetition pattern _ most => pattern.isWidthless || most = some 0

/-- About how many bytes the table of an automaton takes that follows a pattern. Each round of a
repetition that is counted has a table of its own. -/
def size : Pattern → Nat
  | empty | condition _ => 32
  | set chars => chars.size
  | sequence first second => first.size + second.size
  | choice first second => first.size + second.size + 72
  | repetition pattern least most =>
    let once := pattern.size
    if pattern.isWidthless then once + 72
    else match most with
      | some most => least * once + (most - least) * (once + 40) + 32
      | none => max 1 least * once + 72

end Pattern

end BracketQuery.Regex
