import BracketQuery.Binary64.Written
import BracketQuery.Json.Basic

/-!
Writing JSON text, in one line or with one member or element a line.
-/

namespace BracketQuery.Json

/-- A character inside a string. Only quotation marks, backslashes and control characters are
escaped. -/
def escapeChar (c : Char) : List Char :=
  match c with
  | '"' => ['\\', '"']
  | '\\' => ['\\', '\\']
  | '\x08' => ['\\', 'b']
  | '\t' => ['\\', 't']
  | '\n' => ['\\', 'n']
  | '\x0c' => ['\\', 'f']
  | '\r' => ['\\', 'r']
  | _ =>
    if c.toNat < 32 then
      ['\\', 'u', '0', '0', Nat.digitChar (c.toNat / 16), Nat.digitChar (c.toNat % 16)]
    else [c]

/-- A string in quotation marks. -/
def stringText (s : String) : String := String.ofList ('"' :: s.toList.flatMap escapeChar ++ ['"'])

def Number.text : Number → String
  | .integer n => toString n
  | .float x => x.jsonText

mutual

/-- A document in one line without spaces. -/
def compact : Json → String
  | .null => "null"
  | .boolean b => toString b
  | .number n => n.text
  | .string s => stringText s
  | .array elements => "[" ++ compactElements elements ++ "]"
  | .object members => "\x7b" ++ compactMembers members ++ "\x7d"

def compactElements : List Json → String
  | [] => ""
  | [element] => compact element
  | element :: rest => compact element ++ "," ++ compactElements rest

def compactMembers : List (String × Json) → String
  | [] => ""
  | [(name, value)] => stringText name ++ ":" ++ compact value
  | (name, value) :: rest => stringText name ++ ":" ++ compact value ++ "," ++ compactMembers rest

end

/-- A line break and the indentation of so many levels, of two spaces each. -/
def newline (levels : Nat) : String := "\n" ++ String.ofList (List.replicate (2 * levels) ' ')

mutual

/-- A document with one member or element a line, inside so many containers. -/
def pretty (levels : Nat) : Json → String
  | .array [] => "[]"
  | .object [] => "\x7b\x7d"
  | .array elements => "[" ++ prettyElements (levels + 1) elements ++ newline levels ++ "]"
  | .object members => "\x7b" ++ prettyMembers (levels + 1) members ++ newline levels ++ "\x7d"
  | .null => "null"
  | .boolean b => toString b
  | .number n => n.text
  | .string s => stringText s

def prettyElements (levels : Nat) : List Json → String
  | [] => ""
  | [element] => newline levels ++ pretty levels element
  | element :: rest =>
    newline levels ++ pretty levels element ++ "," ++ prettyElements levels rest

def prettyMembers (levels : Nat) : List (String × Json) → String
  | [] => ""
  | [(name, value)] => newline levels ++ stringText name ++ ": " ++ pretty levels value
  | (name, value) :: rest =>
    newline levels ++ stringText name ++ ": " ++ pretty levels value ++ "," ++
      prettyMembers levels rest

end

end BracketQuery.Json
