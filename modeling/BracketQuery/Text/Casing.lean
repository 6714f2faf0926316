import BracketQuery.Text.CaseData
import BracketQuery.Text.Ranges

/-!
Lower case of any text. Most characters have a lower-case form of one character that depends on
nothing else. Two do not: the dotted capital `İ` becomes two characters, and the form of a capital
sigma depends on whether it ends a word.
-/

namespace BracketQuery.Text

/-- The lower-case form of a character by itself, as far as it is one character. -/
def lowerChar (c : Char) : Char :=
  match lowercaseRuns.find? fun (first, last, distance, _) =>
      first ≤ c.toNat && c.toNat ≤ last && (c.toNat - first) % distance == 0 with
  | some (_, _, _, difference) => Char.ofNat (c.toNat + difference).toNat
  | none => c

/-- Whether the first character that is not passed over has a case. -/
def startsCased (text : List Char) : Bool :=
  match text.dropWhile (inRanges caseIgnorableRanges) with
  | [] => false
  | c :: _ => inRanges casedRanges c

/-- Whether a sigma between the reversed text `before` and the text `after` ends a word: a letter
stands before it, and none after it. -/
def endsWord (before after : List Char) : Bool := startsCased before && !startsCased after

/-- Lower case of the rest of a text, of which the reversed text `before` precedes it. -/
def lowercaseAfter (before : List Char) : List Char → List Char
  | [] => []
  | c :: rest =>
    let here := match c with
      | 'Σ' => [if endsWord before rest then 'ς' else 'σ']
      | 'İ' => ['i', '\u0307']
      | _ => [lowerChar c]
    here ++ lowercaseAfter (c :: before) rest

/-- The text in lower case. -/
def lowercase (text : String) : String := String.ofList (lowercaseAfter [] text.toList)

end BracketQuery.Text
