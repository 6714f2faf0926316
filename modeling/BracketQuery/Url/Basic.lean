/-!
Absolute URLs by their parts, every part in its written form, and how the parts are put together.
-/

namespace BracketQuery

/-- The path of a URL: a list of segments, or a text that has no structure. -/
inductive Url.Path where
  | opaquePath (text : String)
  | segments (segments : List String)
  deriving DecidableEq, Repr

/-- An absolute URL. Absent parts differ from empty ones: an empty query still has its question
mark. -/
structure Url where
  scheme : String
  username : String
  password : String
  host : Option String
  port : Option Nat
  path : Url.Path
  query : Option String
  fragment : Option String
  deriving DecidableEq, Repr

namespace Url

/-- Why a text is no absolute URL. -/
inductive Error where
  | relativeWithoutBase
  | emptyHost
  | invalidPort
  | invalidIpv4Address
  | invalidIpv6Address
  | invalidDomainName
  | invalidDomainCharacter
  deriving DecidableEq, Repr

/-- The wording of an error. -/
def Error.message : Error → String
  | relativeWithoutBase => "relative URL without a base"
  | emptyHost => "empty host"
  | invalidPort => "invalid port number"
  | invalidIpv4Address => "invalid IPv4 address"
  | invalidIpv6Address => "invalid IPv6 address"
  | invalidDomainName => "invalid international domain name"
  | invalidDomainCharacter => "invalid domain character"

/-- The schemes whose URLs have a host and segments in every case, with their usual ports. -/
def specialSchemes : List (String × Option Nat) :=
  [("http", some 80), ("https", some 443), ("ws", some 80), ("wss", some 443), ("ftp", some 21),
    ("file", none)]

/-- Whether a scheme is one of the special ones. -/
def isSpecialScheme (scheme : String) : Bool := (specialSchemes.lookup scheme).isSome

/-- The port that need not be written. -/
def defaultPort? (scheme : String) : Option Nat := (specialSchemes.lookup scheme).join

/-- The credentials in front of the host. -/
def credentials (url : Url) : String :=
  if url.username = "" ∧ url.password = "" then ""
  else url.username ++ (if url.password = "" then "" else ":" ++ url.password) ++ "@"

/-- What stands between the scheme and the path. Where there is no host, a path that begins with an
empty segment is kept from looking like one. -/
def authority (url : Url) : String :=
  match url.host with
  | some host =>
    "//" ++ url.credentials ++ host ++
      (url.port.map fun port => ":" ++ toString port).getD ""
  | none =>
    match url.path with
    | .segments ("" :: _ :: _) => "/."
    | _ => ""

/-- The written path. -/
def Path.text : Path → String
  | .opaquePath written => written
  | .segments parts => String.join (parts.map ("/" ++ ·))

/-- The text before the query. -/
def beforeQuery (url : Url) : String := url.scheme ++ ":" ++ url.authority ++ url.path.text

/-- The text from the fragment on. -/
def afterQuery (url : Url) : String := (url.fragment.map ("#" ++ ·)).getD ""

/-- The written URL. -/
def text (url : Url) : String :=
  url.beforeQuery ++ (url.query.map ("?" ++ ·)).getD "" ++ url.afterQuery

end Url

end BracketQuery
