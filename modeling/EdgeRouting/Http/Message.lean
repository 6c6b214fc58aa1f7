import EdgeRouting.Header.Basic
import EdgeRouting.Uri.Basic

/-!
# Requests and responses
-/

namespace EdgeRouting

structure Method where
  text : String
  legal : text.toList ≠ [] ∧ text.toList.all isTokenChar = true
  deriving DecidableEq

def Method.ofText? (text : String) : Option Method :=
  if legal : text.toList ≠ [] ∧ text.toList.all isTokenChar = true then some ⟨text, legal⟩ else none

structure Request where
  method : Method
  uri : Uri
  headers : HeaderMap
  body : List UInt8
  /-- The path the viewer asked for, once the request hook has noted it. -/
  viewerPath : Option String := none
  deriving DecidableEq

structure Status where
  code : Nat
  deriving DecidableEq, Repr

namespace Status

def movedPermanently : Status := ⟨301⟩
def notFound : Status := ⟨404⟩
def badGateway : Status := ⟨502⟩
def internalServerError : Status := ⟨500⟩

def phrase (status : Status) : String :=
  if status = movedPermanently then "Moved Permanently"
  else if status = notFound then "Not Found"
  else if status = badGateway then "Bad Gateway"
  else if status = internalServerError then "Internal Server Error"
  else "<unknown status code>"

def text (status : Status) : String :=
  s!"{status.code} {status.phrase}"

end Status

structure Response where
  status : Status
  headers : HeaderMap
  body : List UInt8
  deriving DecidableEq

end EdgeRouting
