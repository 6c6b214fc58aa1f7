/-!
# Authorities

The authority of a URI: user information, host and port. It is read left to right; a closing bracket
and an at sign make what came before no longer count as a port or as a percent sign in the host.
-/

namespace EdgeRouting

def isAuthorityChar (c : Char) : Bool :=
  c.isAlphanum || "!$&'()*+,-.;=_~:@[]".toList.contains c

/-- What matters of the characters read so far. -/
structure AuthorityScan where
  colons : Nat := 0
  opened : Bool := false
  closed : Bool := false
  percent : Bool := false
  endsInAt : Bool := false
  deriving DecidableEq

namespace AuthorityScan

/-- At most eight colons stand in one stretch, and brackets come once. -/
def step (s : AuthorityScan) (c : Char) : Option AuthorityScan :=
  if c = ':' then
    if s.colons < 8 then some { s with colons := s.colons + 1, endsInAt := false } else none
  else if c = '[' then
    if s.percent || s.opened then none else some { s with opened := true, endsInAt := false }
  else if c = ']' then
    if !s.opened || s.closed then none
    else some { s with closed := true, colons := 0, percent := false, endsInAt := false }
  else if c = '@' then some { s with colons := 0, percent := false, endsInAt := true }
  else if c = '%' then some { s with percent := true, endsInAt := false }
  else if isAuthorityChar c then some { s with endsInAt := false }
  else none

/-- One colon may be left for the port. -/
def isComplete (s : AuthorityScan) : Bool :=
  s.opened == s.closed && decide (s.colons ≤ 1) && !s.endsInAt && !s.percent

end AuthorityScan

def isAuthority (text : List Char) : Bool :=
  !text.isEmpty && (text.foldlM AuthorityScan.step {}).any AuthorityScan.isComplete

structure Authority where
  text : String
  legal : isAuthority text.toList = true
  deriving DecidableEq

def Authority.ofText? (text : String) : Option Authority :=
  if legal : isAuthority text.toList = true then some ⟨text, legal⟩ else none

end EdgeRouting
