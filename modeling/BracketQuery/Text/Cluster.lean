import BracketQuery.Text.WidthData

/-!
Characters that a terminal shows as one: emoji sequences, flags and ligatures. A text is read from
its end, and what it starts with is kept as far as it matters to the character before it.
-/

namespace BracketQuery.Text

/-- Whether a code point lies between two others, which both count. -/
def isBetween (first last : Nat) (c : Char) : Bool := first ≤ c.toNat && c.toNat ≤ last

/-- The zero-width joiner, which asks for a ligature. -/
def joiner : Char := '\u200d'

/-- The letters of which two name a flag. -/
def isRegionalIndicator : Char → Bool := isBetween 0x1f1e6 0x1f1ff

/-- The modifiers that give emoji a skin tone. -/
def isSkinTone : Char → Bool := isBetween 0x1f3fb 0x1f3ff

/-- The tags that spell the region of a flag, with digits as well. -/
def isTagLetter : Char → Bool := isBetween 0xe0061 0xe007a

/-- The digits among the tags of a flag. -/
def isTagDigit : Char → Bool := isBetween 0xe0030 0xe0039

/-- The consonants of Tifinagh, which a joiner makes pairs of. -/
def isTifinaghConsonant (c : Char) : Bool := isBetween 0x2d31 0x2d65 c || c = 'ⵯ'

/-- The quotation marks that have a wide style. -/
def isQuotationMark (c : Char) : Bool := c = '‘' || c = '’' || c = '“' || c = '”'

/-- The forms of the Arabic letter lam. -/
def isLam (c : Char) : Bool :=
  isBetween 0x6b5 0x6b8 c || ['\u0644', '\u076a', '\u08a6', '\u08c7'].contains c

/-- Whether an Arabic letter joins the next one across a character. -/
def isJoiningTransparent (c : Char) : Bool :=
  inTable zeroWidthCharacters c && !inTable joiningBreaks c

/-- The letters that form a ligature with what stands before them. -/
inductive Letter where
  | lamed
  | khmer
  | ya
  /-- The Buginese letter ya with a vowel before it. -/
  | yaVowel
  | tifinagh
  /-- A Tifinagh letter with the sign for a pair before it. -/
  | tifinaghPair
  | lisuTone
  | orkhonI
  deriving DecidableEq, Repr

/-- What a text starts with. -/
inductive Start where
  /-- Something that nothing joins. -/
  | plain
  | alef
  /-- A letter, with a joiner before it or without. -/
  | letter (letter : Letter) (joined : Bool)
  | kiratRaiE
  | kiratRaiAi
  | emoji
  | skinTone
  /-- A regional indicator, of which two are a flag. -/
  | indicator
  /-- Several regional indicators. -/
  | indicators
  /-- A joiner and an emoji. -/
  | joinedEmoji
  /-- A key frame before a joiner and an emoji. -/
  | joinedKeycap
  /-- One regional indicator before a joiner and an emoji. -/
  | joinedIndicator
  /-- Several regional indicators before a joiner and an emoji, an even number or an odd one. -/
  | joinedIndicators (even : Bool)
  /-- Tag letters and the tag that ends them, before a joiner and an emoji. -/
  | tagLetters (count : Nat)
  /-- Tag digits before such tags. -/
  | tagDigits (count : Nat)
  deriving DecidableEq, Repr

/-- What a character at the start of a text is to the character before it. -/
def Start.of (c : Char) : Start :=
  if c = 'ל' then letter .lamed false
  else if c = 'ᨐ' then letter .ya false
  else if c = 'ꓼ' ∨ c = 'ꓽ' then letter .lisuTone false
  else if c = '𐰃' then letter .orkhonI false
  else if isTifinaghConsonant c then letter .tifinagh false
  else if c = '𖵧' then kiratRaiE
  else if c = '𖵨' then kiratRaiAi
  else if isRegionalIndicator c then indicator
  else if isSkinTone c then skinTone
  else if inTable alefLetters c then alef
  else if inTable khmerLetters c then letter .khmer false
  else if inTable emojiCharacters c then emoji
  else plain

/-- What a character adds to the columns of a text that starts with a letter, and the new start, if
they join. -/
def Letter.join? (c : Char) (joined : Bool) : Letter → Option (Int × Start)
  | lamed => if joined ∧ c = 'א' then some (0, .plain) else none
  | khmer => if c = '\u17d2' then some (-1, .plain) else none
  | ya => if joined ∧ c = '\u1a17' then some (0, .letter .yaVowel true) else none
  | yaVowel => if c = 'ᨕ' then some (0, .plain) else none
  | tifinagh =>
    if c = '\u2d7f' then some (1, .letter .tifinaghPair true)
    else if joined ∧ isTifinaghConsonant c then some (0, .plain)
    else none
  | tifinaghPair => if isTifinaghConsonant c then some (-1, .plain) else none
  | lisuTone => if isBetween 0xa4f8 0xa4fb c then some (0, .plain) else none
  | orkhonI => if joined ∧ c = '𐰲' then some (0, .plain) else none

/-- The start of tags with another tag before them. -/
def Start.tagged? (c : Char) : Start → Option Start
  | tagLetters count =>
    if isTagLetter c ∧ count < 6 then some (tagLetters (count + 1))
    else if isTagDigit c ∧ count < 5 then some (tagDigits 1)
    else if c = '🏴' ∧ 3 ≤ count then some emoji
    else none
  | tagDigits count =>
    if isTagDigit c ∧ count < 3 then some (tagDigits (count + 1))
    else if c = '🏴' ∧ count = 3 then some emoji
    else none
  | _ => none

/-- The start of an emoji sequence with another member before it that has no width. -/
def Start.extended? (c : Char) : Start → Option Start
  | emoji | indicators | joinedIndicators _ => if c = joiner then some joinedEmoji else none
  | skinTone =>
    if c = joiner then some joinedEmoji
    else if inTable modifiableEmoji c then some emoji
    else none
  | joinedEmoji =>
    if c = '\u20e3' then some joinedKeycap
    else if isSkinTone c then some skinTone
    else if c.toNat = 0xe007f then some (tagLetters 0)
    else if inTable emojiCharacters c then some emoji
    else none
  | tagLetters count => tagged? c (tagLetters count)
  | tagDigits count => tagged? c (tagDigits count)
  | _ => none

/-- What a regional indicator adds to a text that starts with regional indicators, which are pairs
from the first on, and the new start. -/
def Start.paired? : Start → Option (Int × Start)
  | indicator | indicators => some (1, indicators)
  | joinedEmoji => some (1, joinedIndicator)
  | joinedIndicator | joinedIndicators false => some (-1, joinedIndicators true)
  | joinedIndicators true => some (3, joinedIndicators false)
  | _ => none

/-- What a character adds to the columns of a text with some start, and the new start, if they join.
-/
def Start.join? (c : Char) (start : Start) : Option (Int × Start) :=
  match start with
  | alef =>
    if isLam c then some (0, plain)
    else if isJoiningTransparent c then some (0, alef)
    else none
  | letter l joined => l.join? c joined
  | kiratRaiE =>
    match c with
    | '𖵣' | '𖵩' => some (0, plain)
    | '𖵧' => some (0, kiratRaiAi)
    | '𖵨' => some (1, kiratRaiE)
    | _ => none
  | kiratRaiAi => if c = '𖵣' then some (0, plain) else none
  | _ => if isRegionalIndicator c then start.paired? else (start.extended? c).map (0, ·)

/-- The start of a text with a joiner or a mark before it that leaves a ligature possible. -/
def Start.across? (c : Char) : Start → Option Start
  | letter l joined =>
    if c = joiner then some (letter l true)
    else if inTable ligatureMarks c then some (letter l joined)
    else none
  | _ => none

/-- Whether a selector before the start of a text belongs to an emoji sequence. -/
def Start.isJoinedEmoji : Start → Bool
  | joinedEmoji | joinedKeycap => true
  | _ => false

/-- Whether selectors before the start of a text leave a ligature possible. -/
def Start.isLetter : Start → Bool
  | alef | letter _ _ => true
  | _ => false

/-- The styles that a selector behind a character asks for. -/
inductive Style where
  | emoji
  | text
  /-- Quotation marks as wide as ideographs. -/
  | wideQuote
  deriving DecidableEq, Repr

/-- The style that a selector asks for. -/
def Style.ofSelector? : Char → Option Style
  | '\ufe0f' => some emoji
  | '\ufe0e' => some text
  | '\ufe01' => some wideQuote
  | _ => none

/-- The start of a text, with the styles that selectors before it ask for. -/
structure Opening where
  start : Start
  styles : List Style
  deriving DecidableEq, Repr

namespace Opening

/-- A text without selectors before its start. -/
def ofStart (start : Start) : Opening := ⟨start, []⟩

/-- A text that nothing joins. -/
def plain : Opening := ofStart .plain

/-- A text that starts with an emoji. -/
def emoji : Opening := ofStart .emoji

/-- Whether a selector before the start asks for a style. -/
def asksFor (opening : Opening) (style : Style) : Bool := opening.styles.contains style

/-- A text with a selector before it. -/
def select (style : Style) (opening : Opening) : Opening :=
  if opening.start.isLetter then ⟨opening.start, style :: opening.styles⟩
  else if style = .emoji ∧ opening.start.isJoinedEmoji then ⟨opening.start, [style]⟩
  else ⟨.plain, [style]⟩

/-- A text whose selector stands behind a character that does not have the style. -/
def unselect (style : Style) (opening : Opening) : Opening :=
  if opening.start.isLetter then ⟨opening.start, opening.styles.filter (· ≠ style)⟩
  else if opening.asksFor style then plain
  else opening

end Opening

end BracketQuery.Text
