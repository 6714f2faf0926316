import BracketQuery.Text.PrintableData
import BracketQuery.Text.Ranges

/-!
Text in quotation marks, as messages show it: a reader sees every character that could be mistaken
for another or that moves the cursor as an escape.
-/

namespace BracketQuery.Text

/-- Whether a character shows as itself. -/
def isPrintable (c : Char) : Bool :=
  !inRanges graphemeExtendRanges c && !inRanges unprintableRanges c

/-- A character by its hexadecimal number in braces. -/
def escapeNumber (c : Char) : List Char :=
  ['\\', 'u', '\x7b'] ++ Nat.toDigits 16 c.toNat ++ ['\x7d']

/-- One character between quotation marks. -/
def quoteChar (c : Char) : List Char :=
  match c with
  | '\x00' => ['\\', '0']
  | '\t' => ['\\', 't']
  | '\r' => ['\\', 'r']
  | '\n' => ['\\', 'n']
  | '\\' => ['\\', '\\']
  | '"' => ['\\', '"']
  | _ => if isPrintable c then [c] else escapeNumber c

/-- The text in quotation marks. -/
def quoted (text : String) : String :=
  String.ofList ('"' :: text.toList.flatMap quoteChar ++ ['"'])

end BracketQuery.Text
