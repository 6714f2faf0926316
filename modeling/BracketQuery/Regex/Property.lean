import BracketQuery.Regex.AgeData
import BracketQuery.Regex.BreakData
import BracketQuery.Regex.CategoryData
import BracketQuery.Regex.PropertyData
import BracketQuery.Regex.ScriptData
import BracketQuery.Text.Ranges

/-!
Sets of characters by the properties of the Unicode standard. Properties and their values may be
written in either case, with blanks, hyphens and underscores between words, and with `is` in front.
-/

namespace BracketQuery.Regex

/-- A set of characters. -/
structure CharSet where
  has : Char → Bool
  /-- About how many bytes the table of an automaton takes for the set. -/
  size : Nat

namespace CharSet

/-- The characters of some runs. -/
def ofRuns (runs : List Text.Run) : CharSet := ⟨fun c => Text.inTable runs c, 62 * runs.length⟩

/-- The characters of some ranges of code points. -/
def ofRanges (ranges : List (Nat × Nat)) : CharSet :=
  ⟨fun c => Text.inRanges ranges c, 64 + 8 * ranges.length⟩

/-- No characters. -/
def none : CharSet := ⟨fun _ => false, 0⟩

/-- All characters. -/
def full : CharSet := ⟨fun _ => true, 964⟩

def complement (a : CharSet) : CharSet := ⟨fun c => !a.has c, a.size + 964⟩

def union (a b : CharSet) : CharSet := ⟨fun c => a.has c || b.has c, a.size + b.size⟩

def intersection (a b : CharSet) : CharSet := ⟨fun c => a.has c && b.has c, min a.size b.size⟩

def difference (a b : CharSet) : CharSet := ⟨fun c => a.has c && !b.has c, a.size⟩

def symmetricDifference (a b : CharSet) : CharSet := ⟨fun c => a.has c != b.has c, a.size + b.size⟩

end CharSet

/-- A property by its name, or by its name and a value. -/
inductive Property where
  | named (name : List Char)
  | valued (name value : List Char)
  deriving DecidableEq, Repr

/-- Why there is no set for a property. -/
inductive PropertyError where
  | unknownProperty
  | unknownValue
  deriving DecidableEq, Repr

namespace Property

/-- The plain form of a name. -/
def plain (name : List Char) : String :=
  let (rest, isShortened) := match name with
    | i :: s :: rest => if i.toLower == 'i' && s.toLower == 's' then (rest, true) else (name, false)
    | _ => (name, false)
  let kept := rest.filter fun c => c < '\x80' && c != ' ' && c != '_' && c != '-'
  let plain := String.ofList (kept.map Char.toLower)
  if isShortened && plain == "c" then "isc" else plain

/-- The characters of some runs, of which there have to be some. -/
def ofRuns (runs : List Text.Run) : Except PropertyError CharSet :=
  if runs.isEmpty then .error .unknownValue else .ok (.ofRuns runs)

/-! ## Properties with one of several values -/

/-- Categories that have a name in common. -/
def categoryGroups : List (List String × List String) := [
  (["l", "letter"], ["lu", "ll", "lt", "lm", "lo"]),
  (["lc", "casedletter"], ["lu", "ll", "lt"]),
  (["m", "mark", "combiningmark"], ["mn", "mc", "me"]),
  (["n", "number"], ["nd", "nl", "no"]),
  (["p", "punct", "punctuation"], ["pc", "pd", "ps", "pe", "pi", "pf", "po"]),
  (["s", "symbol"], ["sm", "sc", "sk", "so"]),
  (["z", "separator"], ["zs", "zl", "zp"])]

/-- The characters of some categories. -/
def inCategories (names : List String) : CharSet :=
  .ofRuns (generalCategory.runsOf (names.filterMap generalCategory.number?))

/-- The characters of a category, of a group of categories, or of what the categories are made for;
nothing if the name is none of those. -/
def category? (name : String) : Option (Except PropertyError CharSet) :=
  match name with
  | "any" => some (.ok .full)
  | "ascii" => some (.ok (.ofRanges [(0, 127)]))
  | "assigned" => some (.ok (.ofRuns (Text.Run.table generalCategory.runs)))
  | "unassigned" | "cn" => some (.ok (unassigned name))
  | "other" | "c" => some (.ok ((unassigned name).union (inCategories ["cc", "cf", "co"])))
  | _ =>
    match categoryGroups.find? (·.1.contains name) with
    | some (_, members) => some (.ok (inCategories members))
    | none =>
      (generalCategory.number? name).map fun number => ofRuns (generalCategory.runsOf [number])
where
  unassigned (_ : String) : CharSet :=
    (CharSet.ofRuns (Text.Run.table generalCategory.runs)).complement

/-- The characters of a script; nothing if the name is not one of a script. -/
def script? (name : String) : Option (Except PropertyError CharSet) :=
  (script.number? name).map fun number => ofRuns (script.runsOf [number])

/-- The characters that are used in a script. -/
def scriptExtension? (name : String) : Option (Except PropertyError CharSet) :=
  (script.number? name).map fun number =>
    (ofRuns (script.runsOf [number])).map fun members =>
      let shared := Text.Run.table scriptExtensions
      let used := shared.filter (·.values.contains number)
      (members.difference (.ofRuns shared)).union (.ofRuns used)

/-- The characters of a version of the standard and those before it. -/
def age? (name : String) : Option (Except PropertyError CharSet) :=
  (age.number? name).map fun number =>
    if (age.runsOf [number]).isEmpty then .error .unknownValue
    else ofRuns (age.runsOf (List.range (number + 1)))

/-- The characters with a value of a property. -/
def value? (property : Text.Partition) (name : String) : Option (Except PropertyError CharSet) :=
  (property.number? name).map fun number => ofRuns (property.runsOf [number])

/-! ## Properties that a character has or has not -/

/-- The characters that the data list for a name. -/
def listed (name : String) : CharSet := .ofRuns (Text.runsNamed propertyRuns name)

/-- A set with what the data list as more for a name, and without what they list as less. -/
def corrected (name : String) (set : CharSet) : CharSet :=
  (set.union (listed (name ++ "+"))).difference (listed (name ++ "-"))

/-- Properties that the standard derives from categories and from one list. -/
def basic (name : String) : CharSet :=
  match name with
  | "alphabetic" =>
    (inCategories ["lu", "ll", "lt", "lm", "lo", "nl"]).union (listed "otheralphabetic")
  | "lowercase" => (inCategories ["ll"]).union (listed "otherlowercase")
  | "uppercase" => (inCategories ["lu"]).union (listed "otheruppercase")
  | "math" => (inCategories ["sm"]).union (listed "othermath")
  | "graphemeextend" => (inCategories ["mn", "me"]).union (listed "othergraphemeextend")
  | "idstart" =>
    ((inCategories ["lu", "ll", "lt", "lm", "lo", "nl"]).union (listed "otheridstart")).difference
      ((listed "patternsyntax").union (listed "patternwhitespace"))
  | "caseignorable" => corrected name (inCategories ["mn", "me", "cf", "lm", "sk"])
  | _ => listed name

/-- The characters with a property. -/
def boolean (name : String) : CharSet :=
  match name with
  | "graphemebase" =>
    (CharSet.ofRuns (Text.Run.table generalCategory.runs)).difference
      ((inCategories ["cc", "cf", "co", "zl", "zp"]).union (basic "graphemeextend"))
  | "idcontinue" => identifierPart name
  | "xidstart" => corrected name (basic "idstart")
  | "xidcontinue" => corrected name (identifierPart name)
  | "cased" => ((basic "lowercase").union (basic "uppercase")).union (inCategories ["lt"])
  | "changeswhenlowercased" => changesWhenLowercased name
  | "changeswhenuppercased" => changesWhenUppercased name
  | "changeswhentitlecased" => changesWhenTitlecased name
  | "changeswhencasefolded" => corrected name (changesWhenLowercased name)
  | "changeswhencasemapped" =>
    ((changesWhenLowercased name).union (changesWhenUppercased name)).union
      (changesWhenTitlecased name)
  | _ => basic name
where
  identifierPart (_ : String) : CharSet :=
    ((basic "idstart").union (inCategories ["mn", "mc", "nd", "pc"])).union
      (listed "otheridcontinue")
      |>.difference ((listed "patternsyntax").union (listed "patternwhitespace"))
  changesWhenLowercased (_ : String) : CharSet :=
    corrected "changeswhenlowercased" (basic "uppercase")
  changesWhenUppercased (_ : String) : CharSet :=
    corrected "changeswhenuppercased" (basic "lowercase")
  changesWhenTitlecased (name : String) : CharSet :=
    corrected "changeswhentitlecased" (changesWhenUppercased name)

/-- The first name of a property that a character has or has not. -/
def firstName? (name : String) : Option String :=
  ((Text.wordLists propertyNames).find? (·.contains name.toList)).bind fun names =>
    names.head?.map String.ofList

/-! ## Look-up -/

/-- The names of properties with one of several values. -/
def valuedNames : List String :=
  ["gc", "generalcategory", "sc", "script", "scx", "scriptextensions", "age", "gcb",
    "graphemeclusterbreak", "wb", "wordbreak", "sb", "sentencebreak"]

/-- Whether a name is one of a property. -/
def isKnown (name : String) : Bool :=
  (firstName? name).isSome || valuedNames.contains name ||
    (Text.wordLists otherPropertyNames).any (·.contains name.toList)

/-- Names that properties share with categories, for which they stand when they stand alone. -/
def categoriesFirst : List String := ["cf", "sc", "lc"]

/-- The characters that a name alone stands for. -/
def ofName (name : String) : Except PropertyError CharSet :=
  if isKnown name && !categoriesFirst.contains name then
    match firstName? name with
    | some first => .ok (boolean first)
    | none => .error .unknownProperty
  else ((category? name).or (script? name)).getD (.error .unknownProperty)

/-- The characters with a value of a property. -/
def ofValue (name value : String) : Except PropertyError CharSet :=
  let found := match name with
    | "gc" | "generalcategory" => category? value
    | "sc" | "script" => script? value
    | "scx" | "scriptextensions" => scriptExtension? value
    | "age" => age? value
    | "gcb" | "graphemeclusterbreak" => value? clusterBreak value
    | "wb" | "wordbreak" => value? wordBreak value
    | "sb" | "sentencebreak" => value? sentenceBreak value
    | _ => none
  found.getD (.error (if isKnown name then .unknownValue else .unknownProperty))

/-- The characters of a property. -/
def members : Property → Except PropertyError CharSet
  | named name => ofName (plain name)
  | valued name value => ofValue (plain name) (plain value)

end Property

end BracketQuery.Regex
