import BracketQuery.Document.Decode
import BracketQuery.Json.Typed
import BracketQuery.Normalization.Options

/-!
Reading one document of a known type from text. Filters, inclusions and intents are read as any
document and then decoded; the smaller types are read strictly.
-/

namespace BracketQuery

open Json (Reading RecordField stop readText readBoolean readRecord readAll)

/-- The name of a direction of sorting. -/
def SortOrder.readName (text : List Char) : Reading SortOrder :=
  (readText "variant identifier" text).bind fun (name, rest) =>
    match name with
    | "asc" => .ok (.ascending, rest)
    | "desc" => .ok (.descending, rest)
    | _ => stop (.unknownVariant name "`asc` or `desc`") rest

/-- A direction of sorting: a string, or an object whose one member has the direction as its name
and null as its value. -/
def SortOrder.read (text : List Char) : Except Json.Fault (SortOrder × List Char) :=
  match Json.skipSpace text with
  | [] => stop .endInValue []
  | '"' :: rest => SortOrder.readName ('"' :: rest)
  | '\x7b' :: rest => do
    let some name ← Json.nextName true rest | Json.stopAt .expectedValue (Json.skipSpace rest)
    let (order, rest) ← SortOrder.readName ('"' :: name)
    let ((), rest) ← Json.readUnit (← Json.readColon rest)
    match Json.skipSpace rest with
    | [] => stop .endInObject []
    | '\x7d' :: rest => .ok (order, rest)
    | rest => stop .expectedValue rest
  | text => Json.stopAt .expectedValue text

/-- A pagination: all four members, in an array, or any of them by name. -/
def Pagination.read : List Char → Reading Pagination :=
  let field (name : String) (set : Pagination → Option Int64 → Pagination) :
    RecordField Pagination :=
    ⟨name, fun pagination text =>
      (Json.readOptional Json.readInt64 text).map fun (value, rest) => (set pagination value, rest)⟩
  readRecord "struct Pagination"
    [field "page" fun pagination value => { pagination with page := value },
      field "pageSize" fun pagination value => { pagination with pageSize := value },
      field "start" fun pagination value => { pagination with start := value },
      field "limit" fun pagination value => { pagination with limit := value }]
    (fun count rest _ =>
      stop (.invalidLength count "struct Pagination with 4 elements") (Json.pastArrayEnd rest))
    Pagination.empty

/-- The members of a pagination, absent ones as null. -/
def Pagination.toFullJson (pagination : Pagination) : Json :=
  .object (pagination.members.map fun (name, value) =>
    (name, (value.map fun n => Json.number (.integer n.toInt)).getD .null))

/-- Type codes: an array of strings. -/
def TypeCodes.read (text : List Char) : Reading TypeCodes :=
  (Json.readArray (readText "a string") text).map fun (codes, rest) =>
    (TypeCodes.ofList codes, rest)

def TypeCodes.toJson (known : TypeCodes) : Json := Json.strings known.codes

namespace Normalization.Options

/-- Options by name or by position; what is missing has its standard value. -/
def read : List Char → Reading Options :=
  readRecord "struct NormalizeOptions"
    [⟨"type_field", fun options text => (readText "a string" text).map fun (value, rest) =>
        ({ options with typeField := value }, rest)⟩,
      ⟨"type_codes", fun options text => (TypeCodes.read text).map fun (value, rest) =>
        ({ options with typeCodes := value }, rest)⟩,
      ⟨"expand_dates", fun options text => (readBoolean text).map fun (value, rest) =>
        ({ options with expandDates := value }, rest)⟩]
    (fun _ rest options => (Json.readArrayEnd rest).map fun rest => (options, rest))
    standard

/-- The options that a text states. -/
def parse (text : String) : Except Json.Refusal Options := readAll read text

def toJson (options : Options) : Json :=
  .object [("type_field", .string options.typeField), ("type_codes", options.typeCodes.toJson),
    ("expand_dates", .boolean options.expandDates)]

end Normalization.Options

/-- Read a text as any document and decode it. A document of the wrong shape is refused without a
place, before the rest of the text is looked at. -/
def parseDecoded {α : Type} (decode : Json → Except String (Decoded α)) (text : String) :
    Except Json.Refusal (Decoded α) :=
  readAll (fun chars =>
    (Json.readValue Json.maxDepth chars).bind fun (value, rest) =>
      match decode value with
      | .ok decoded => .ok (decoded, rest)
      | .error reason => .error ⟨.invalidShape reason, none⟩) text

/-- A lenient decoder, of which an absent result is refused for the given reason. -/
def orRefuse {α : Type} (reason : String) (decode : Json → Decoded (Option α)) (value : Json) :
    Except String (Decoded α) :=
  let decoded := decode value
  match decoded.value with
  | some result => .ok ⟨result, decoded.events⟩
  | none => .error reason

/-- The filter tree that a text states. -/
def FilterNode.parse : String → Except Json.Refusal (Decoded FilterNode) :=
  parseDecoded (orRefuse "filters must be a JSON object" FilterNode.ofJson?)

/-- The inclusion that a text states. -/
def Populate.parse : String → Except Json.Refusal (Decoded Populate) :=
  parseDecoded (orRefuse "populate must be true, a string, an array or an object" Populate.ofJson?)

/-- The pagination that a text states. -/
def Pagination.parse : String → Except Json.Refusal Pagination := readAll Pagination.read

/-- The direction that a text states. -/
def SortOrder.parse : String → Except Json.Refusal SortOrder := readAll SortOrder.read

/-- The type codes that a text states. -/
def TypeCodes.parse : String → Except Json.Refusal TypeCodes := readAll TypeCodes.read

end BracketQuery
