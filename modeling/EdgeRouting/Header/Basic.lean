import EdgeRouting.Text.Utf8

/-!
# Headers

A header name is kept in lower case. A header map keeps its entries in order of arrival, so the
values of one name keep theirs; nothing depends on the order of different names.
-/

namespace EdgeRouting

def tokenPunctuation : List Char := "!#$%&'*+-.^_\x60|~".toList

def isTokenChar (c : Char) : Bool :=
  c.isAlphanum || tokenPunctuation.contains c

/-- A name in lower case, of a limited length. -/
def isHeaderName (text : List Char) : Bool :=
  !text.isEmpty && text.length.ble 65535 && text.all fun c => isTokenChar c && !c.isUpper

structure HeaderName where
  text : String
  legal : isHeaderName text.toList = true
  deriving DecidableEq

namespace HeaderName

/-- Reads a name in any letter case. -/
def ofText? (text : String) : Option HeaderName :=
  let lower := String.ofList (text.toList.map Char.toLower)
  if legal : isHeaderName lower.toList = true then some ⟨lower, legal⟩ else none

def host : HeaderName := ⟨"host", by decide +kernel⟩
def cookie : HeaderName := ⟨"cookie", by decide +kernel⟩
def location : HeaderName := ⟨"location", by decide +kernel⟩
def requestId : HeaderName := ⟨"x-request-id", by decide +kernel⟩
def contentLength : HeaderName := ⟨"content-length", by decide +kernel⟩
def contentType : HeaderName := ⟨"content-type", by decide +kernel⟩

end HeaderName

/-- A tab, or any byte from the blank upwards but the delete character. -/
def isHeaderByte (b : UInt8) : Bool :=
  b == 9 || (32 ≤ b && b != 127)

def isReadableByte (b : UInt8) : Bool :=
  b == 9 || (32 ≤ b && b < 127)

structure HeaderValue where
  bytes : List UInt8
  legal : bytes.all isHeaderByte = true
  deriving DecidableEq

namespace HeaderValue

def ofBytes? (bytes : List UInt8) : Option HeaderValue :=
  if legal : bytes.all isHeaderByte = true then some ⟨bytes, legal⟩ else none

def ofText? (text : String) : Option HeaderValue :=
  ofBytes? (Utf8.encode text)

def readable? (value : HeaderValue) : Option String :=
  if value.bytes.all isReadableByte then
    some (String.ofList (value.bytes.map fun b => Char.ofNat b.toNat)) else none

end HeaderValue

structure HeaderMap where
  entries : List (HeaderName × HeaderValue)
  deriving DecidableEq

namespace HeaderMap

def empty : HeaderMap := ⟨[]⟩

def values (headers : HeaderMap) (name : HeaderName) : List HeaderValue :=
  (headers.entries.filter (·.1 = name)).map (·.2)

def get? (headers : HeaderMap) (name : HeaderName) : Option HeaderValue :=
  (headers.values name).head?

/-- Each name once, in order of first arrival. -/
def names (headers : HeaderMap) : List HeaderName :=
  (headers.entries.map (·.1)).eraseDups

def append (headers : HeaderMap) (name : HeaderName) (value : HeaderValue) : HeaderMap :=
  ⟨headers.entries ++ [(name, value)]⟩

def remove (headers : HeaderMap) (name : HeaderName) : HeaderMap :=
  ⟨headers.entries.filter (·.1 ≠ name)⟩

def insert (headers : HeaderMap) (name : HeaderName) (value : HeaderValue) : HeaderMap :=
  (headers.remove name).append name value

end HeaderMap

end EdgeRouting
