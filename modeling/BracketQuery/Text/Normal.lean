import BracketQuery.Text.NormalData

/-!
The composed normal form of text: every character is taken apart, marks on one letter are brought
into the order of their classes, and what can be composed is composed again. Syllables of Hangul are
composed by arithmetic, all else by tables.
-/

namespace BracketQuery.Text

/-- The class of a mark; zero for characters that marks are put on. -/
def combiningClass (c : Char) : Nat :=
  if c.toNat < 0x300 then 0
  else ((runOf? combiningClasses c).bind (·.values.head?)).getD 0

/-- The leading consonant, the vowel and perhaps the trailing consonant of a syllable of Hangul. -/
def decomposeSyllable (c : Char) : List Char :=
  let index := c.toNat - 0xAC00
  let front := [Char.ofNat (0x1100 + index / 588), Char.ofNat (0x1161 + index % 588 / 28)]
  if index % 28 = 0 then front else front ++ [Char.ofNat (0x11A7 + index % 28)]

/-- A character taken apart in at most `depth` steps. -/
def decompose : (depth : Nat) → Char → List Char
  | 0, c => [c]
  | depth + 1, c =>
    if c.toNat < 0xC0 then [c]
    else if 0xAC00 ≤ c.toNat ∧ c.toNat ≤ 0xD7A3 then decomposeSyllable c
    else match runOf? compositions c with
      | some run =>
        match run.values with
        | [first, second] => decompose depth (Char.ofNat first) ++ [Char.ofNat second]
        | _ => [c]
      | none =>
        match runOf? decompositions c with
        | some run => run.values.map Char.ofNat
        | none => [c]

/-- Bring marks that follow each other into the order of their classes. -/
def orderMarks (text : List Char) : List Char :=
  let (done, marks) := text.foldl (fun (done, marks) c =>
    if combiningClass c = 0 then (done ++ marks ++ [c], [])
    else
      let (before, after) := marks.span fun mark => combiningClass mark ≤ combiningClass c
      (done, before ++ c :: after)) (([], []) : List Char × List Char)
  done ++ marks

/-- The syllable of Hangul that a leading consonant and a vowel form, or that a syllable forms with
a trailing consonant. -/
def composeSyllable? (first second : Char) : Option Char :=
  if 0x1100 ≤ first.toNat ∧ first.toNat < 0x1113 ∧
    0x1161 ≤ second.toNat ∧ second.toNat < 0x1176 then
    some (Char.ofNat (0xAC00 + (first.toNat - 0x1100) * 588 + (second.toNat - 0x1161) * 28))
  else if 0xAC00 ≤ first.toNat ∧ first.toNat ≤ 0xD7A3 ∧ (first.toNat - 0xAC00) % 28 = 0 ∧
      0x11A8 ≤ second.toNat ∧ second.toNat < 0x11C3 then
    some (Char.ofNat (first.toNat + (second.toNat - 0x11A7)))
  else none

/-- The character that two characters form. -/
def composePair? (first second : Char) : Option Char :=
  (composeSyllable? first second).or
    ((compositions.find? fun run => run.values == [first.toNat, second.toNat]).map fun run =>
      Char.ofNat run.first)

/-- A text as far as it is composed: what is done, reversed; the last letter; and the marks on it
that have not been composed, reversed. -/
structure Composed where
  done : List Char
  letter : Option Char
  marks : List Char

namespace Composed

/-- The composed text, reversed. -/
def reversed (state : Composed) : List Char := state.marks ++ state.letter.toList ++ state.done

/-- Whether a mark between the last letter and a character keeps the two apart. -/
def isBlocked (state : Composed) (c : Char) : Bool :=
  match state.marks with
  | [] => false
  | mark :: _ => combiningClass c ≤ combiningClass mark

/-- Go on with a character. -/
def push (state : Composed) (c : Char) : Composed :=
  let letter? := if state.isBlocked c then none else state.letter.bind (composePair? · c)
  match letter? with
  | some letter => { state with letter }
  | none =>
    if combiningClass c = 0 then ⟨state.reversed, some c, []⟩
    else { state with marks := c :: state.marks }

end Composed

/-- The composed normal form of a text. -/
def normalize (text : List Char) : List Char :=
  if text.all fun c => c.toNat < 0x300 then text
  else
    let ordered := orderMarks (text.flatMap (decompose 4))
    (ordered.foldl Composed.push ⟨[], none, []⟩).reversed.reverse

end BracketQuery.Text
