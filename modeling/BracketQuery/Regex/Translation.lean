import BracketQuery.Regex.Depth
import BracketQuery.Regex.Folding
import BracketQuery.Regex.Pattern
import BracketQuery.Text.Blank

/-!
The pattern that a regular expression stands for. Flags hold from where they are changed up to the
end of their group.
-/

namespace BracketQuery.Regex

/-- The flags that hold at a place. -/
structure Mode where
  anyCase : Bool
  lines : Bool
  dotAll : Bool
  unicode : Bool
  carriageReturns : Bool

namespace Mode

/-- The flags at the start of an expression. -/
def standard : Mode := ⟨false, false, false, true, false⟩

/-- The flags behind a change of one. -/
def set (mode : Mode) (flag : Flag) (on : Bool) : Mode :=
  match flag with
  | .anyCase => { mode with anyCase := on }
  | .lines => { mode with lines := on }
  | .dotAll => { mode with dotAll := on }
  | .unicode => { mode with unicode := on }
  | .carriageReturns => { mode with carriageReturns := on }
  | .short | .spaced => mode

/-- The flags behind some changes. -/
def change (mode : Mode) (changes : FlagChanges) : Mode :=
  changes.foldl (fun mode (flag, on) => mode.set flag on) mode

/-- The letters that are alike where case does not count. -/
def folding (mode : Mode) : Folding := if mode.unicode then .standard else .ascii

/-- A set where case may not count. -/
def close (mode : Mode) (set : CharSet) : CharSet :=
  if mode.anyCase then mode.folding.close set else set

end Mode

/-- Refuse an expression at a place. -/
def refuse {α : Type} (cause : Cause) (span : Span) : Except SyntaxError α :=
  .error ⟨cause, span, none⟩

/-! ## Sets -/

/-- The characters of a class with a letter. -/
def ShortClass.members (kind : ShortClass) (unicode : Bool) : CharSet :=
  match kind, unicode with
  | .digit, true => Property.inCategories ["nd"]
  | .space, true => ⟨Text.isBlank, 680⟩
  | .word, true =>
    (Property.basic "alphabetic").union
      ((Property.inCategories ["mn", "mc", "me", "nd", "pc"]).union (Property.listed "joincontrol"))
  | .digit, false => .ofRanges [(48, 57)]
  | .space, false => .ofRanges [(9, 13), (32, 32)]
  | .word, false => .ofRanges [(48, 57), (65, 90), (95, 95), (97, 122)]

/-- A set, or what is not in it. Outside of Unicode a text is no text but bytes, and what is not in
a set holds bytes that are no text. -/
def negate (mode : Mode) (negated : Bool) (span : Span) (set : CharSet) :
    Except SyntaxError CharSet :=
  if !negated then .ok set
  else if mode.unicode then .ok set.complement
  else refuse .invalidUtf8 span

/-- The set of a class with a letter. -/
def shortSet (mode : Mode) (span : Span) (kind : ShortClass) (negated : Bool) :
    Except SyntaxError CharSet :=
  negate mode negated span (kind.members mode.unicode)

/-- The set of a property. -/
def propertySet (mode : Mode) (span : Span) (property : Property) (negated : Bool) :
    Except SyntaxError CharSet :=
  if !mode.unicode then refuse .unicodeNotAllowed span
  else match property.members with
    | .error .unknownProperty => refuse .unknownProperty span
    | .error .unknownValue => refuse .unknownPropertyValue span
    | .ok set => negate mode negated span (mode.close set)

/-- Refuse a byte that is no character. -/
def checkByte (mode : Mode) (literal : Literal) : Except SyntaxError Unit :=
  if !mode.unicode && literal.isByte && '\x7f' < literal.char then refuse .invalidUtf8 literal.span
  else .ok ()

/-- Refuse a bound of a class that cannot be one. -/
def checkBound (mode : Mode) (literal : Literal) : Except SyntaxError Unit := do
  checkByte mode literal
  if !mode.unicode && '\x7f' < literal.char then refuse .unicodeNotAllowed literal.span

mutual

/-- The characters of what stands in brackets. -/
def ClassSet.members (mode : Mode) : ClassSet → Except SyntaxError CharSet
  | .union _ items => itemsMembers mode items
  | .combination _ operation left right => do
    let left := mode.close (← left.members mode)
    let right := mode.close (← right.members mode)
    match operation with
    | .intersection => .ok (left.intersection right)
    | .difference => .ok (left.difference right)
    | .symmetricDifference => .ok (left.symmetricDifference right)

/-- The characters of a part of a class. -/
def ClassItem.members (mode : Mode) : ClassItem → Except SyntaxError CharSet
  | .atom span atom =>
    match atom with
    | .literal literal =>
      (checkBound mode literal).map fun _ => .ofRanges [(literal.char.toNat, literal.char.toNat)]
    | .short kind negated => shortSet mode span kind negated
    | .property property negated => propertySet mode span property negated
    | .dot | .assertion _ => .ok .none
  | .range _ first last => do
    checkBound mode first
    checkBound mode last
    .ok (.ofRanges [(first.char.toNat, last.char.toNat)])
  | .ascii span ranges negated => negate mode negated span (mode.close (.ofRanges ranges))
  | .bracketed span negated set =>
    (set.members mode).bind fun set => negate mode negated span (mode.close set)

/-- The characters of several parts of a class. -/
def itemsMembers (mode : Mode) : List ClassItem → Except SyntaxError CharSet
  | [] => .ok .none
  | [item] => item.members mode
  | item :: items => do
    let first ← item.members mode
    let rest ← itemsMembers mode items
    .ok (first.union rest)

end

/-! ## Conditions -/

/-- The condition of a place between words. -/
def wordCondition (word : CharSet) (holds : Bool → Bool → Bool) : Condition :=
  fun before after => holds (before.any word.has) (after.any word.has)

/-- The start of a line. -/
def startsLine (carriageReturns : Bool) : Condition := fun before after =>
  match before with
  | none => true
  | some '\n' => true
  | some '\r' => carriageReturns && after != some '\n'
  | some _ => false

/-- The end of a line. -/
def endsLine (carriageReturns : Bool) : Condition := fun before after =>
  match after with
  | none => true
  | some '\n' => !carriageReturns || before != some '\r'
  | some '\r' => carriageReturns
  | some _ => false

/-- The condition of an assertion. -/
def Assertion.condition (mode : Mode) (assertion : Assertion) : Condition :=
  let ofWords := wordCondition (ShortClass.word.members mode.unicode)
  match assertion with
  | .lineStart =>
    if mode.lines then startsLine mode.carriageReturns else fun before _ => before.isNone
  | .lineEnd => if mode.lines then endsLine mode.carriageReturns else fun _ after => after.isNone
  | .textStart => fun before _ => before.isNone
  | .textEnd => fun _ after => after.isNone
  | .wordBoundary => ofWords fun before after => before != after
  | .noWordBoundary => ofWords fun before after => before == after
  | .wordStart => ofWords fun before after => !before && after
  | .wordEnd => ofWords fun before after => before && !after
  | .wordStartHalf => ofWords fun before _ => !before
  | .wordEndHalf => ofWords fun _ after => !after

/-! ## Expressions -/

/-- The characters that a dot stands for. -/
def dotSet (mode : Mode) : CharSet :=
  if mode.dotAll then .full
  else
    let breaks := if mode.carriageReturns then [(10, 10), (13, 13)] else [(10, 10)]
    (CharSet.ofRanges breaks).complement

/-- The set of a character. -/
def literalSet (mode : Mode) (c : Char) : CharSet :=
  let alone : CharSet := ⟨(· == c), 32 * c.utf8Size⟩
  if mode.anyCase then (mode.folding.kinSet? c).getD alone else alone

/-- The pattern of an atom. -/
def Atom.pattern (mode : Mode) (span : Span) : Atom → Except SyntaxError Pattern
  | .literal char => (checkByte mode char).map fun _ => .set (literalSet mode char.char)
  | .dot => if mode.unicode then .ok (.set (dotSet mode)) else refuse .invalidUtf8 span
  | .assertion place => .ok (.condition (place.condition mode))
  | .short kind negated => (shortSet mode span kind negated).map .set
  | .property members negated => (propertySet mode span members negated).map .set

mutual

/-- The pattern of an expression, and the flags that hold behind it. -/
def Node.pattern (mode : Mode) : Node → Except SyntaxError (Pattern × Mode)
  | .empty _ => .ok (.empty, mode)
  | .flags _ changes => .ok (.empty, mode.change changes)
  | .atom span atom => (atom.pattern mode span).map fun pattern => (pattern, mode)
  | .bracketed span negated set =>
    (set.members mode).bind fun set =>
      (negate mode negated span (mode.close set)).map fun set => (.set set, mode)
  | .repetition _ node least most =>
    (node.pattern mode).map fun (pattern, mode) => (.repetition pattern least most, mode)
  | .group _ changes node =>
    (node.pattern (mode.change changes)).map fun (pattern, _) => (pattern, mode)
  | .sequence _ nodes =>
    (patterns mode nodes).map fun (patterns, mode) => (.sequenceOf patterns, mode)
  | .choice _ nodes =>
    (patterns mode nodes).map fun (patterns, mode) => (.choiceOf patterns, mode)

/-- The patterns of several expressions, and the flags that hold behind them. -/
def patterns (mode : Mode) : List Node → Except SyntaxError (List Pattern × Mode)
  | [] => .ok ([], mode)
  | node :: nodes => do
    let (first, mode) ← node.pattern mode
    let (rest, mode) ← patterns mode nodes
    .ok (first :: rest, mode)

end

end BracketQuery.Regex
