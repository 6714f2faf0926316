import BracketQuery.Normalization.Options
import BracketQuery.Toml.Document

/-!
The settings of a configuration file. What the file does not say has its usual value, and what it
says beyond the known settings does not count.
-/

namespace BracketQuery.CommandLine

/-- How intents are normalized and compiled. -/
structure Configuration where
  normalization : Normalization.Options
  /-- What compiled queries are appended to. -/
  baseUrl : Option String
  /-- Whether intents are normalized before they are compiled. -/
  normalize : Bool
  deriving DecidableEq, Repr

/-- Why a configuration file cannot be used. -/
inductive ConfigurationError where
  /-- It is no document, or a value has the wrong type, at a line and column. -/
  | malformed (line column : Nat)
  | unusable (defect : Normalization.Options.Defect)
  deriving DecidableEq, Repr

namespace Configuration

def standard : Configuration := ⟨.standard, none, false⟩

/-- Read a value whose key is at the given place. -/
abbrev Setting (α : Type) := Toml.Mark → Toml.Value → Except Toml.Mark α

/-- A value of another type than the expected one is wrong where it starts. -/
def wrongType {α : Type} (key : Toml.Mark) (value : Toml.Value) : Except Toml.Mark α :=
  .error (value.mark?.getD key)

def text : Setting String
  | _, .string _ value => .ok value
  | key, value => wrongType key value

def flag : Setting Bool
  | _, .boolean _ value => .ok value
  | key, value => wrongType key value

def texts : Setting (List String)
  | key, .array _ values | key, .tables values => values.mapM (text key)
  | key, value => wrongType key value

/-- A group of settings by their names. A list gives them in order, and a date and time, which is a
group of another kind, gives none. -/
def group {α : Type} (start : α) (settings : List (String × Setting (α → α))) : Setting α :=
  fun key value =>
    match value with
    | .table _ _ entries =>
      entries.foldlM (fun settled (key, value) =>
        match settings.lookup key.name with
        | some setting => (setting key.mark value).map (· settled)
        | none => .ok settled) start
    | .array _ values | .tables values =>
      (values.zip settings).foldlM (fun settled (value, setting) =>
        (setting.2 key value).map (· settled)) start
    | .dateTime _ _ => .ok start
    | value => wrongType key value

/-- A setting that takes the place of another value. -/
def set {α β : Type} (read : Setting α) (put : α → β → β) : Setting (β → β) :=
  fun key value => (read key value).map put

/-- The settings of normalization. -/
def options : Setting Normalization.Options :=
  group .standard [
    ("type_field", set text fun typeField options => { options with typeField }),
    ("type_codes", set texts fun codes options => { options with typeCodes := .ofList codes }),
    ("expand_dates", set flag fun expandDates options => { options with expandDates })]

/-- The settings of compilation. -/
def compilation (configuration : Configuration) : Setting Configuration :=
  group configuration [
    ("base_url",
      set text fun baseUrl configuration => { configuration with baseUrl := some baseUrl }),
    ("normalize", set flag fun normalize configuration => { configuration with normalize })]

/-- The settings of a document. -/
def ofEntries (entries : Toml.Entries) : Except Toml.Mark Configuration :=
  entries.foldlM (fun configuration (key, value) =>
    match key.name with
    | "normalizer" =>
      (options key.mark value).map fun normalization => { configuration with normalization }
    | "compiler" => compilation configuration key.mark value
    | _ => .ok configuration) standard

/-- The configuration that a text states. -/
def parse (content : String) : Except ConfigurationError Configuration :=
  match (Toml.parse content.toList).bind ofEntries with
  | .error mark =>
    let (line, column) := mark.place content.toList
    .error (.malformed line column)
  | .ok configuration =>
    match configuration.normalization.defect? with
    | some defect => .error (.unusable defect)
    | none => .ok configuration

/-- The text that states the usual settings. -/
def standardText : String :=
  let codes := TypeCodes.standard.codes.map fun code => "    \"" ++ code ++ "\",\n"
  "[normalizer]\ntype_field = \"" ++ Normalization.Options.standard.typeField ++
    "\"\ntype_codes = [\n" ++ String.join codes ++
    "]\nexpand_dates = true\n\n[compiler]\nnormalize = false\n"

end Configuration

end BracketQuery.CommandLine
