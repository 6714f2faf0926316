import BracketQuery.Url.Host

/-!
Parsing of absolute URLs. The text is cut into scheme, authority, path, query and fragment, and each
part is brought to its written form. URLs with a special scheme have a host in every case, and take
a backslash for a slash.
-/

namespace BracketQuery.Url

/-- Whether a character is left out wherever it stands. -/
def isTabOrNewline (c : Char) : Bool := c == '\t' || c == '\n' || c == '\r'

/-- The text without control characters and spaces at its ends. -/
def strip (text : List Char) : List Char :=
  let isEdge (c : Char) := c.toNat ≤ 32
  ((text.dropWhile isEdge).reverse.dropWhile isEdge).reverse

/-- The scheme in lower case and what follows its colon. -/
def splitScheme? (text : List Char) : Option (String × List Char) :=
  let isSchemeChar (c : Char) := c.isAlphanum || c == '+' || c == '-' || c == '.'
  let scheme := text.takeWhile isSchemeChar
  match scheme.head?, text.dropWhile isSchemeChar with
  | some first, ':' :: rest =>
    if first.isAlpha then some (String.ofList (scheme.map Char.toLower), rest) else none
  | _, _ => none

/-- Cut a text at the first character that satisfies `p`. -/
def cut (p : Char → Bool) (text : List Char) : List Char × List Char :=
  (text.takeWhile (!p ·), text.dropWhile (!p ·))

/-- The path, query and fragment at the end of a URL. -/
structure Tail where
  path : List Char
  query : Option (List Char)
  fragment : Option (List Char)

/-- Cut the end of a URL into path, query and fragment. -/
def splitTail (text : List Char) : Tail :=
  let (front, fragment) := cut (· == '#') text
  let (path, query) := cut (· == '?') front
  let after (part : List Char) : Option (List Char) :=
    match part with
    | [] => none
    | _ :: rest => some rest
  ⟨path, after query, after fragment⟩

/-- Whether a segment means the directory it is in. -/
def isSingleDot (segment : List Char) : Bool :=
  ["." , "%2e"].contains (String.ofList (segment.map Char.toLower))

/-- Whether a segment means the directory above. -/
def isDoubleDot (segment : List Char) : Bool :=
  ["..", ".%2e", "%2e.", "%2e%2e"].contains (String.ofList (segment.map Char.toLower))

/-- Whether a segment is a drive letter with a colon or a bar. -/
def isDriveLetter (segment : List Char) : Bool :=
  match segment with
  | [letter, mark] => letter.isAlpha && (mark == ':' || mark == '|')
  | _ => false

/-- The segments that lead to the directory above. Nothing leads above a drive letter, wherever it
stands. -/
def parentSegments (segments : List String) : List String :=
  match segments.getLast? with
  | some last => if isDriveLetter last.toList then segments else segments.dropLast
  | none => []

/-- The drive letter that a written segment begins with, and what follows the tab or line break that
ends it. -/
def splitDrive? (written : List Char) : Option (Char × List Char) :=
  match written.dropWhile isTabOrNewline with
  | letter :: rest =>
    match rest.dropWhile isTabOrNewline with
    | ':' :: mark :: rest =>
      let behind := rest.filter (!isTabOrNewline ·)
      if letter.isAlpha && isTabOrNewline mark && !behind.isEmpty then some (letter, behind)
      else none
    | _ => none
  | [] => none

/-- A path as far as it has been resolved. -/
structure Resolved where
  segments : List String
  /-- Whether a segment was found to be the drive that the path is on. -/
  onDrive : Bool

/-- Append one written segment of a path to those before it. Dots are resolved; a path that ends in
dots ends in a slash. Where a path may be on a drive, its first segment may name the drive. -/
def Resolved.append (drives last : Bool) (path : Resolved) (written : List Char) : Resolved :=
  let segment := written.filter (!isTabOrNewline ·)
  let ending := if last then [""] else []
  let first := drives && path.segments.isEmpty
  match if first then splitDrive? written else none with
  | some (letter, behind) =>
    { path with segments := [String.ofList [letter, ':'], Part.path.encode behind] }
  | none =>
    if isDoubleDot segment then { path with segments := parentSegments path.segments ++ ending }
    else if isSingleDot segment then { path with segments := path.segments ++ ending }
    else if first && isDriveLetter segment then ⟨[String.ofList (segment.take 1 ++ [':'])], true⟩
    else { path with segments := path.segments ++ [Part.path.encode segment] }

/-- Append the written segments of a path to those before them. -/
def Resolved.appendAll (drives : Bool) (path : Resolved) : List (List Char) → Resolved
  | [] => path
  | segment :: rest => (path.append drives rest.isEmpty segment).appendAll drives rest

/-- Resolve a path, with or without the slash that it begins with. -/
def resolve (special drives : Bool) (path : List Char) : Resolved :=
  let path := if special then path.map (fun c => if c == '\\' then '/' else c) else path
  let segments := match path.dropWhile isTabOrNewline with
    | '/' :: rest => rest.splitOn '/'
    | _ => path.splitOn '/'
  Resolved.appendAll drives ⟨[], false⟩ segments

/-- The segments of a path of a local file, which begins with a single slash. -/
def trimSegments (segments : List String) : List String :=
  match segments.dropWhile (· == "") with
  | [] => [""]
  | segments => segments

/-- A port: digits up to 65535. The usual port of the scheme need not be written. -/
def parsePort (scheme : String) (digits : List Char) : Except Error (Option Nat) :=
  let value := Text.decimalNumber digits
  if !digits.all Char.isDigit || 65535 < value then .error .invalidPort
  else if digits.isEmpty || defaultPort? scheme == some value then .ok none
  else .ok (some value)

/-- Cut a host at the colon before its port, which is not one of those between brackets. -/
def splitPort (inside : Bool) : List Char → List Char × Option (List Char)
  | [] => ([], none)
  | c :: rest =>
    if c == ':' && !inside then ([], some rest)
    else
      let inside := if c == '[' then true else if c == ']' then false else inside
      let (host, port) := splitPort inside rest
      (c :: host, port)

/-- Cut an authority at its last at-sign. -/
def splitCredentials (authority : List Char) : Option (List Char) × List Char :=
  let parts := authority.splitOn '@'
  if parts.length ≤ 1 then (none, authority)
  else (some (List.intercalate ['@'] parts.dropLast), parts.getLast?.getD [])

/-- The rest of a URL after the two slashes of its authority. A backslash ends a port also where it
is no slash. -/
def parseAuthority (scheme : String) (text : List Char) : Except Error Url := do
  let special := isSpecialScheme scheme
  let ends (c : Char) := c == '/' || c == '?' || c == '#' || (special && c == '\\')
  let (authority, rest) := cut ends text
  let (credentials, address) := splitCredentials authority
  if credentials == some [] && address.isEmpty && !rest.isEmpty then throw .emptyHost
  let (username, password) := cut (· == ':') (credentials.getD [])
  let (name, port) := splitPort false address
  if special && name.isEmpty then throw .emptyHost
  let host ← if special then Host.parse name else Host.parseOpaque name
  if name.isEmpty && (port.isSome || !username.isEmpty || !password.isEmpty) then throw .emptyHost
  let (digits, behind) := cut (· == '\\') (port.getD [])
  let port ← parsePort scheme digits
  let tail := splitTail (if behind.isEmpty then rest else '/' :: behind ++ rest)
  let path :=
    if special || !tail.path.isEmpty then (resolve special false tail.path).segments else []
  pure {
    scheme
    username := Part.userinfo.encode username
    password := Part.userinfo.encode (password.drop 1)
    host := some host
    port
    path := .segments path
    query := tail.query.map (if special then Part.specialQuery else Part.query).encode
    fragment := tail.fragment.map Part.fragment.encode
  }

/-- Take a slash in front of a text, perhaps behind tabs or line breaks. -/
def takeSlash? (text : List Char) : Option (List Char) :=
  match text.dropWhile isTabOrNewline with
  | c :: rest => if c == '/' || c == '\\' then some rest else none
  | [] => none

/-- The host of a local file, whether the path may be on a drive, and the path. A drive letter is no
host, and the local host is the same as none. -/
def parseFileHost (text : List Char) : Except Error (String × Bool × List Char) :=
  match (takeSlash? text).bind takeSlash? with
  | none => .ok ("", true, text)
  | some rest =>
    let (name, path) := cut (fun c => c == '/' || c == '\\' || c == '?' || c == '#') rest
    let name := name.filter (!isTabOrNewline ·)
    if isDriveLetter name then .ok ("", true, rest)
    else if name.isEmpty then .ok ("", false, path)
    else (Host.parse name).map fun host =>
      if host = "localhost" then ("", false, path) else (host, true, path)

/-- The rest of a URL of a local file after the colon, with its tabs and line breaks. A file on a
drive has no host. -/
def parseFile (text : List Char) : Except Error Url := do
  let (host, drives, rest) ← parseFileHost text
  let tail := splitTail rest
  let path := resolve true drives tail.path
  let encode (part : Part) (text : List Char) := part.encode (text.filter (!isTabOrNewline ·))
  pure {
    scheme := "file"
    username := ""
    password := ""
    host := some (if path.onDrive then "" else host)
    port := none
    path := .segments (trimSegments path.segments)
    query := tail.query.map (encode .specialQuery)
    fragment := tail.fragment.map (encode .fragment)
  }

/-- The rest of a URL without an authority after the colon. -/
def parseWithoutAuthority (scheme : String) (text : List Char) : Url :=
  let tail := splitTail text
  { scheme
    username := ""
    password := ""
    host := none
    port := none
    path := match tail.path with
      | '/' :: _ => .segments (resolve false false tail.path).segments
      | path => .opaquePath (Part.opaquePath.encode path)
    query := tail.query.map Part.query.encode
    fragment := tail.fragment.map Part.fragment.encode }

/-- The absolute URL that a text writes. Tabs and line breaks count nowhere but behind the drive
letter of a file. -/
def parse (text : String) : Except Error Url :=
  let written := strip text.toList
  match splitScheme? (written.filter (!isTabOrNewline ·)) with
  | none => .error .relativeWithoutBase
  | some (scheme, rest) =>
    if scheme = "file" then parseFile ((written.dropWhile (· != ':')).drop 1)
    else if isSpecialScheme scheme then
      parseAuthority scheme (rest.dropWhile fun c => c == '/' || c == '\\')
    else match rest with
      | '/' :: '/' :: rest => parseAuthority scheme rest
      | _ => .ok (parseWithoutAuthority scheme rest)

/-- The URL with another query. -/
def withQuery (url : Url) (query : List Char) : Url :=
  let part := if isSpecialScheme url.scheme then Part.specialQuery else Part.query
  { url with query := some (part.encode (query.filter (!isTabOrNewline ·))) }

end BracketQuery.Url
