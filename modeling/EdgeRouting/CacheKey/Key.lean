import EdgeRouting.CacheKey.Selector
import EdgeRouting.Http.Message
import EdgeRouting.Text.Scan

/-!
# Cache keys

The key of a request is its path followed by every selected header, cookie and query parameter, each
kind sorted. What is selected is also what is forwarded to the origin.
-/

namespace EdgeRouting

/-- A cookie or a query parameter as it was sent, with the name it goes by. -/
structure Component where
  name : String
  text : String
  deriving DecidableEq, Repr

namespace Component

def trim (text : List Char) : List Char :=
  Scan.trim Scan.isBlank text

def nameOf (text : List Char) : List Char :=
  text.takeWhile (· != '=')

def ofQuery (query : String) : List Component :=
  ((query.toList.splitOn '&').filter (· ≠ [])).map fun text =>
    ⟨String.ofList (nameOf text), String.ofList text⟩

def ofCookieLine (line : String) : List Component :=
  (((line.toList.splitOn ';').map trim).filter (· ≠ [])).map fun text =>
    ⟨String.ofList (trim (nameOf text)), String.ofList text⟩

/-- The cookies of every header line that can be read. -/
def ofCookies (headers : HeaderMap) : List Component :=
  ((headers.values .cookie).filterMap HeaderValue.readable?).flatMap ofCookieLine

def join? (separator : String) (components : List Component) : Option String :=
  if components.isEmpty then none
  else some (String.ofList (separator.toList.intercalate (components.map (·.text.toList))))

end Component

namespace CacheDescriptor

def selectedQuery (d : CacheDescriptor) (query : Option String) : List Component :=
  ((query.map Component.ofQuery).getD []).filter fun c => d.queryStrings.includes c.name

def selectedCookies (d : CacheDescriptor) (headers : HeaderMap) : List Component :=
  (Component.ofCookies headers).filter fun c => d.cookies.includes c.name

def selectedHeaders (d : CacheDescriptor) (headers : HeaderMap) : List HeaderName :=
  headers.names.filter fun name => d.headers.includes name.text

def forwardedQuery? (d : CacheDescriptor) (query : Option String) : Option String :=
  Component.join? "&" (d.selectedQuery query)

def forwardedCookies? (d : CacheDescriptor) (headers : HeaderMap) : Option String :=
  Component.join? "; " (d.selectedCookies headers)

/-- A header with all its values. Malformed bytes are written as replacement characters. -/
def headerEntry (headers : HeaderMap) (name : HeaderName) : String :=
  String.ofList (name.text.toList ++ '=' ::
    [','].intercalate
      ((headers.values name).map fun value => (Utf8.decodeLossy value.bytes).toList))

/-- One kind of entries, sorted; nothing where there are none. -/
def keySection (tag separator : Char) (entries : List String) : List Char :=
  if entries.isEmpty then []
  else ['|', tag, ':'] ++
    [separator].intercalate ((entries.mergeSort fun a b => decide (a ≤ b)).map String.toList)

def cacheKey (d : CacheDescriptor) (request : Request) : String :=
  String.ofList (request.uri.path.toList
    ++ keySection 'h' ';' ((d.selectedHeaders request.headers).map (headerEntry request.headers))
    ++ keySection 'c' ';' ((d.selectedCookies request.headers).map (·.text))
    ++ keySection 'q' '&' ((d.selectedQuery request.uri.query).map (·.text)))

end CacheDescriptor

end EdgeRouting
