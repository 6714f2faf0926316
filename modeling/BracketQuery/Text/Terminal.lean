/-!
Texts without what a terminal acts on instead of showing it: control characters other than white
space, and control sequences. A sequence starts with an escape character, of which the next
character says how the sequence goes on.
-/

namespace BracketQuery.Text.Terminal

/-- Where in a control sequence a text has come to. -/
inductive Phase where
  /-- Outside of all sequences. -/
  | text
  /-- Behind an escape character. -/
  | escape
  /-- Behind an escape character and intermediate characters. -/
  | escapeTail
  /-- In the parameters of a control function, up to the character that names it. -/
  | control
  /-- At the start of a string for the device. -/
  | device
  /-- In the parameters of a string for the device. -/
  | deviceParameters
  /-- In the intermediate characters of a string for the device. -/
  | deviceTail
  /-- In a string that one byte can end. -/
  | string
  /-- In a command, which a bell can end. -/
  | command
  deriving DecidableEq, Repr

/-- Whether a character has the byte that ends a string behind its first byte in UTF-8. -/
def endsString (c : Char) : Bool := (String.utf8EncodeChar c).drop 1 |>.contains 0x9c

/-- The phase behind a printable ASCII character. -/
def Phase.afterPrintable (phase : Phase) (c : Char) : Phase :=
  match phase with
  | text => text
  | escape =>
    if c < '0' then escapeTail
    else match c with
      | '[' => control
      | ']' => command
      | 'P' => device
      | 'X' | '^' | '_' => string
      | _ => text
  | escapeTail => if c < '0' then escapeTail else text
  | control => if c < '@' then control else text
  | device => if c < '0' then deviceTail else if c < '@' then deviceParameters else string
  | deviceParameters => if c < '0' then deviceTail else if c < '<' then deviceParameters else string
  | deviceTail => if c < '0' then deviceTail else string
  | string => string
  | command => command

/-- The phase behind a character that is not shown. -/
def Phase.after (phase : Phase) (c : Char) : Phase :=
  if c = '\x1b' then escape
  else if c = '\x18' ∨ c = '\x1a' then text
  else if c < ' ' then if phase = command ∧ c = '\x07' then text else phase
  else if c < '\x7f' then phase.afterPrintable c
  else if phase = string ∧ endsString c then text
  else phase

/-- Whether a control character is white space. -/
def isSpace (c : Char) : Bool := c == '\t' || c == '\n' || c == '\x0c' || c == '\r'

/-- Whether a character is shown in a phase. White space is shown also inside of sequences other
than strings and commands. -/
def Phase.shows (phase : Phase) (c : Char) : Bool :=
  match phase with
  | text => isSpace c || (' ' ≤ c && c != '\x7f')
  | escape | escapeTail | control => isSpace c
  | device | deviceParameters | deviceTail | string | command => false

/-- The characters of a text that are shown. What stands behind a shown character is shown as
outside of sequences, up to a character that is not; a sequence that white space has broken goes on
there. -/
def shown : Phase → (afterShown : Bool) → List Char → List Char
  | _, _, [] => []
  | phase, false, c :: rest =>
    if phase.shows c then c :: shown phase true rest else shown (phase.after c) false rest
  | phase, true, c :: rest =>
    if Phase.text.shows c then c :: shown (if c < '\x80' then phase else .text) true rest
    else shown (phase.after c) false rest

/-- What is shown of a text. -/
def strip (text : String) : String := String.ofList (shown .text false text.toList)

end BracketQuery.Text.Terminal
