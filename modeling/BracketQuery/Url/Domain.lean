import BracketQuery.Text.Casing
import BracketQuery.Text.Normal
import BracketQuery.Text.Quoted
import BracketQuery.Url.Basic
import BracketQuery.Url.Direction
import BracketQuery.Url.DomainData
import BracketQuery.Url.Punycode

/-!
Domain names in ASCII. The characters of a name are brought to lower case and to their plain forms,
and the name to its composed normal form; a label that then holds characters beyond ASCII is written
in its ASCII form, with the letters `xn--` in front. A label that is given in its ASCII form must be
one that this gives.
-/

namespace BracketQuery.Url.Domain

/-- The characters that no domain name holds, control characters apart. -/
def forbidden : List Char :=
  [' ', '#', '%', '/', ':', '<', '>', '?', '@', '[', '\\', ']', '^', '|', '\x7f']

/-- Whether no domain name holds a character. -/
def isForbidden (c : Char) : Bool := c.toNat < 32 || forbidden.contains c

/-- A character in the form that names hold, or nothing if no name holds it in any form. The two
joiners are kept though they do not show. -/
def mapChar? (c : Char) : Option (List Char) :=
  if c.toNat < 128 then some [c.toLower]
  else match Text.runOf? mappings c with
    | some run => some (run.image c)
    | none =>
      if c == '\u200c' || c == '\u200d' then some [c]
      else if Text.inRanges Text.unprintableRanges c || Text.inTable refusals c then none
      else some [Text.lowerChar c]

/-- A text in the form that names hold. -/
def map? (text : List Char) : Option (List Char) :=
  (text.mapM mapChar?).map fun parts => Text.normalize parts.flatten

/-- Whether all characters of a label are ASCII. -/
def isAscii (label : List Char) : Bool := label.all fun c => c.toNat < 128

/-- Whether a character is a mark on the one before it. -/
def isMark (c : Char) : Bool :=
  Text.inTable Text.nonspacingMarks c || Text.inTable Text.spacingMarks c

/-- The most characters of a label that has an ASCII form other than itself. -/
def maxLength : Nat := 1000

/-- The most characters of an ASCII form after the letters in front. -/
def maxEncodedLength : Nat := 2000

/-- Whether a label in its own characters may be part of a name. -/
def isValid (label : List Char) : Bool :=
  (isAscii label || label.length ≤ maxLength) && !label.head?.any isMark && areJoining [] label

/-- The characters of a mapped label that is given in its ASCII form or in its own characters. -/
def decode? (label : List Char) : Option (List Char) :=
  match label with
  | 'x' :: 'n' :: '-' :: '-' :: rest =>
    if !isAscii label || maxEncodedLength < rest.length then none
    else match Punycode.decode? rest with
      | some decoded =>
        if isAscii decoded || map? decoded ≠ some decoded then none else some decoded
      | none => none
  | _ => some label

/-- The ASCII form of a label in its own characters. -/
def encode (label : List Char) : List Char :=
  if isAscii label then label else 'x' :: 'n' :: '-' :: '-' :: Punycode.encode label

/-- The ASCII form of a name. -/
def toAscii? (name : List Char) : Option (List Char) := do
  let labels ← ((← map? name).splitOn '.').mapM decode?
  let ascii := List.intercalate ['.'] (labels.map encode)
  if labels.all isValid && areDirected labels && !ascii.any isForbidden then some ascii else none

end BracketQuery.Url.Domain
