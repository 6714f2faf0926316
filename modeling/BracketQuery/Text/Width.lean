import BracketQuery.Text.Cluster

/-!
The number of terminal columns that a text takes. Most characters take one column or two whatever is
beside them; members of clusters share theirs.
-/

namespace BracketQuery.Text

/-- The columns of a character by itself. One Khmer sign stands for three letters. -/
def charWidth (c : Char) : Nat :=
  if c = '\u17d8' then 3
  else if inTable zeroWidthCharacters c then 0
  else if inTable wideCharacters c then 2
  else 1

/-- What a character adds to the columns of a text whose selectors do not apply to it, and the new
opening. -/
def Opening.stepPlain (c : Char) (opening : Opening) : Int × Opening :=
  match opening.start.across? c with
  | some start => (0, ⟨start, opening.styles⟩)
  | none =>
    match if opening.styles.isEmpty then opening.start.join? c else none with
    | some (columns, start) => (columns, .ofStart start)
    | none => (charWidth c, .ofStart (.of c))

/-- What a character adds to the columns of a text with some opening, and the new opening. -/
def Opening.step (c : Char) (opening : Opening) : Int × Opening :=
  if opening.asksFor .emoji ∧ inTable emojiStyles c then
    (if opening.start.isJoinedEmoji then 0 else 2, .emoji)
  else
    let opening := opening.unselect .emoji
    if c ≤ '\u00a0' then (1, .plain)
    else if let some style := Style.ofSelector? c then (0, opening.select style)
    else if opening.asksFor .text then
      if inTable textStyles c then (1, .plain) else (opening.unselect .text).stepPlain c
    else if opening.asksFor .wideQuote then
      if isQuotationMark c then (2, .plain) else (opening.unselect .wideQuote).stepPlain c
    else opening.stepPlain c

/-- The columns of a line of text. -/
def width (text : String) : Nat :=
  let result := text.toList.foldr (fun c rest =>
      let (columns, opening) := rest.2.step c
      (rest.1 + columns, opening))
    ((0, .plain) : Int × Opening)
  result.1.toNat

end BracketQuery.Text
