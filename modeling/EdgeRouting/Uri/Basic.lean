import EdgeRouting.Uri.Authority

/-!
# URIs

A URI is read from text and written back as text. Its path is empty only where it is an authority
alone; a fragment is not kept.
-/

namespace EdgeRouting

/-- Bytes that a URI, or a path with its query, may have. -/
def uriLimit : Nat := 65534

def isPathChar (c : Char) : Bool :=
  c == '!' || c == '"' || ('$' ≤ c && c ≤ ';') || c == '=' || ('@' ≤ c && c ≤ '_') ||
    ('a' ≤ c && c ≤ '~') || '\x80' ≤ c

def isQueryChar (c : Char) : Bool :=
  c == '!' || ('$' ≤ c && c ≤ ';') || c == '=' || ('?' ≤ c && c ≤ '~') || '\x80' ≤ c

structure Uri where
  scheme : Option String
  authority : Option Authority
  path : String
  query : Option String
  deriving DecidableEq

namespace Uri

/-- A path with its query. An empty path reads as a slash. -/
def readPathAndQuery? (text : List Char) : Option (String × Option String) :=
  let kept := text.takeWhile (· != '#')
  let path := kept.takeWhile (· != '?')
  let query := (kept.dropWhile (· != '?')).tail
  if path.all isPathChar && query.all isQueryChar then
    some (if path.isEmpty then "/" else String.ofList path,
      if kept.contains '?' then some (String.ofList query) else none)
  else none

/-- A path with its query that stands alone: it begins with one of three characters, or is the
asterisk. -/
def pathAndQuery? (text : String) : Option (String × Option String) :=
  if text = "*" then some ("*", none)
  else if uriLimit < text.utf8ByteSize then none
  else if text.toList.head?.any fun c => c == '/' || c == '?' || c == '#' then
    readPathAndQuery? text.toList
  else none

inductive SchemeScan
  | absent
  | tooLong
  | present (scheme rest : List Char)

def isSchemeChar (c : Char) : Bool :=
  c.isAlphanum || "+-.~".toList.contains c

/-- The scheme in front of `://`. The two common schemes are read in any letter case. -/
def scanScheme (text : List Char) : SchemeScan :=
  if (text.take 7).map Char.toLower = "http://".toList then .present "http".toList (text.drop 7)
  else if (text.take 8).map Char.toLower = "https://".toList then
    .present "https".toList (text.drop 8)
  else if text.length ≤ 3 then .absent
  else
    let scheme := text.takeWhile isSchemeChar
    let rest := text.dropWhile isSchemeChar
    if "://".toList.isPrefixOf rest then
      if 64 < scheme.length then .tooLong else .present scheme (rest.drop 3)
    else .absent

def endsAuthority (c : Char) : Bool :=
  c == '/' || c == '?' || c == '#'

def ofText? (text : String) : Option Uri :=
  if text.isEmpty || uriLimit < text.utf8ByteSize then none
  else if text = "*" || text.toList.head? = some '/' then do
    let (path, query) ← pathAndQuery? text
    return { scheme := none, authority := none, path, query }
  else
    match scanScheme text.toList with
    | .tooLong => none
    | .absent => do
      let authority ← Authority.ofText? text
      return { scheme := none, authority := some authority, path := "", query := none }
    | .present scheme rest => do
      let authority ← Authority.ofText? (String.ofList (rest.takeWhile (!endsAuthority ·)))
      let (path, query) ← readPathAndQuery? (rest.dropWhile (!endsAuthority ·))
      return { scheme := some (String.ofList scheme), authority := some authority, path, query }

def queryText : Option String → String
  | some query => "?" ++ query
  | none => ""

def text (uri : Uri) : String :=
  (match uri.scheme with | some scheme => scheme ++ "://" | none => "")
    ++ (match uri.authority with | some authority => authority.text | none => "")
    ++ uri.path ++ queryText uri.query

/-- Replaces the path and keeps the query, by reading the new path and the query as they are written
together. An authority without a scheme takes no path. -/
def withPath? (uri : Uri) (path : String) : Option Uri := do
  let (path, query) ← pathAndQuery? (path ++ queryText uri.query)
  if uri.authority.isSome && uri.scheme.isNone then none
  else return { uri with path, query }

end Uri

end EdgeRouting
