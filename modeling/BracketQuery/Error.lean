import BracketQuery.Document.Strict
import BracketQuery.Url.Basic

/-!
Everything that can go wrong between a document and a query.
-/

namespace BracketQuery

/-- Why an intent could not be read or sent. -/
inductive IntentError where
  /-- The text is no JSON document of the required type. -/
  | json (refusal : Json.Refusal)
  /-- The document is of another kind than an object. -/
  | invalidShape (reason : String)
  /-- The base of a request is no absolute URL. -/
  | url (error : Url.Error)
  /-- The options of normalization cannot be used. -/
  | config (defect : Normalization.Options.Defect)
  deriving DecidableEq, Repr

/-- The wording of an error. -/
def IntentError.message : IntentError → String
  | json refusal => "invalid json: " ++ refusal.message
  | invalidShape reason => "invalid intent shape: " ++ reason
  | url error => "invalid base url: " ++ error.message
  | config defect => "invalid configuration: " ++ defect.message

namespace Intent

/-- The intent that a document states. -/
def decode (value : Json) : Except IntentError (Decoded Intent) :=
  match Intent.ofJson? value with
  | .ok decoded => .ok decoded
  | .error kind => .error (.invalidShape ("expected a JSON object, found " ++ kind))

/-- The intent that a text states. -/
def parse (text : String) : Except IntentError (Decoded Intent) :=
  match Json.parse text with
  | .ok value => decode value
  | .error refusal => .error (.json refusal)

/-- The intent that a text states, where a document of the wrong shape counts as wrong JSON. -/
def parseStrict (text : String) : Except Json.Refusal (Decoded Intent) :=
  parseDecoded (fun value =>
    match decode value with
    | .ok decoded => .ok decoded
    | .error error => .error error.message) text

end Intent

end BracketQuery
