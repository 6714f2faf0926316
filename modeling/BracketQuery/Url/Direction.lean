import BracketQuery.Text.MarkData
import BracketQuery.Text.Normal
import BracketQuery.Url.DirectionData

/-!
Two conditions on the characters of a domain name. Where some are written from right to left, every
label has one direction from its first to its last character. The two joiners, which do not show,
stand only where they change the form of the letters around them.
-/

namespace BracketQuery.Url

/-- How a character takes part in the direction of a text. -/
inductive Direction where
  | left
  | right
  | arabicDigit
  | europeanDigit
  | neutral
  | mark
  deriving DecidableEq, Repr

namespace Direction

/-- The direction of a character of a name. -/
def ofChar (c : Char) : Direction :=
  if c.toNat < 128 then
    if c.isAlpha then left else if c.isDigit then europeanDigit else neutral
  else if Text.inTable leftwardMarks c then left
  else if Text.inTable Text.nonspacingMarks c || c.toNat == 0x1171E then mark
  else if Text.inTable arabicDigits c then arabicDigit
  else if Text.inTable europeanDigits c then europeanDigit
  else if Text.inTable undirected c then neutral
  else if Text.inTable rightToLeft c then right
  else left

/-- Whether a character makes a name one that is partly written from right to left. -/
def isRightward (direction : Direction) : Bool := direction == right || direction == arabicDigit

end Direction

/-- Whether the directions of the characters of a label agree: behind a letter from left to right
stand no letters from right to left and no Arabic digits, behind one from right to left no letters
from left to right and digits of one kind only. Marks at the end apart, a label ends in a letter or
a digit. -/
def isDirected (label : List Direction) : Bool :=
  let last := (label.reverse.dropWhile (· == .mark)).head?
  match label with
  | [] => true
  | .left :: rest =>
    rest.all (fun d => d != .right && d != .arabicDigit) &&
      (last == some .left || last == some .europeanDigit)
  | .right :: rest =>
    rest.all (· != .left) && last != some .neutral &&
      !(rest.contains .arabicDigit && rest.contains .europeanDigit)
  | _ => false

/-- Whether all labels of a name are written in one direction each, if some of its characters are
written from right to left. -/
def areDirected (labels : List (List Char)) : Bool :=
  let directions := labels.map (·.map Direction.ofChar)
  !directions.any (·.any Direction.isRightward) || directions.all isDirected

/-- Whether a character is passed over when the neighbours of a joiner are looked for. -/
def isTransparent (c : Char) : Bool := Text.inTable Text.nonspacingMarks c || c.toNat == 0x1E94B

/-- Whether the first character that is not passed over lies in one of two tables. -/
def startsJoining (one other : List Text.Run) (text : List Char) : Bool :=
  match text.dropWhile isTransparent with
  | [] => false
  | c :: _ => Text.inTable one c || Text.inTable other c

/-- Whether a mark suppresses the vowel of the letter before it. -/
def isVirama (c : Char) : Bool := Text.combiningClass c == 9

/-- Whether the joiners of a label, of which the reversed text `before` has been read, stand where
they may. -/
def areJoining (before : List Char) : List Char → Bool
  | [] => true
  | c :: rest =>
    let behindVirama := before.head?.any isVirama
    let here :=
      if c == '\u200d' then behindVirama
      else if c == '\u200c' then
        behindVirama || (startsJoining leftJoining dualJoining before &&
          startsJoining rightJoining dualJoining rest)
      else true
    here && areJoining (c :: before) rest

end BracketQuery.Url
