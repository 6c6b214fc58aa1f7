import EdgeRouting.Config.Basic
import EdgeRouting.Glob.Basic
import EdgeRouting.Header.Basic

/-!
# Header rules

Every rule whose glob matches the path sets its header, in order, so that a later rule overrides an
earlier one. The built-in rules stand first and match every path.
-/

namespace EdgeRouting

structure HeaderRule where
  glob : Glob
  name : HeaderName
  text : String
  legal : (Utf8.encode text).all isHeaderByte = true
  deriving DecidableEq

namespace HeaderRule

def value (rule : HeaderRule) : HeaderValue :=
  ⟨Utf8.encode rule.text, rule.legal⟩

/-- Puts a rule together from a compiled glob. The error on a value quotes the name in lower
case. -/
def ofParts (glob : Glob) (name text : String) : Except CompileError HeaderRule :=
  match HeaderName.ofText? name with
  | none => .error (.invalidHeaderName name)
  | some name =>
    if legal : (Utf8.encode text).all isHeaderByte = true then .ok ⟨glob, name, text, legal⟩
    else .error (.invalidHeaderValue name.text)

def compile (path name text : String) : Except CompileError HeaderRule := do
  ofParts (← Glob.compile path) name text

def matchAll : Glob := ⟨"**", [.withinLine]⟩

def everywhere (name : HeaderName) (text : String)
    (legal : (Utf8.encode text).all isHeaderByte = true) : HeaderRule :=
  ⟨matchAll, name, text, legal⟩

def security : List HeaderRule := [
  everywhere ⟨"x-frame-options", by decide +kernel⟩ "DENY" (by decide +kernel),
  everywhere ⟨"x-content-type-options", by decide +kernel⟩ "nosniff" (by decide +kernel),
  everywhere ⟨"strict-transport-security", by decide +kernel⟩
    "max-age=31536000; includeSubDomains; preload" (by decide +kernel),
  everywhere ⟨"content-security-policy", by decide +kernel⟩
    ("default-src 'self'; base-uri 'self'; object-src 'none'; " ++
      "frame-ancestors 'none'; upgrade-insecure-requests") (by decide +kernel),
  everywhere ⟨"x-xss-protection", by decide +kernel⟩ "1; mode=block" (by decide +kernel)]

def crossOrigin : List HeaderRule := [
  everywhere ⟨"access-control-allow-origin", by decide +kernel⟩ "*" (by decide +kernel),
  everywhere ⟨"access-control-allow-methods", by decide +kernel⟩ "GET, HEAD, OPTIONS"
    (by decide +kernel),
  everywhere ⟨"access-control-allow-headers", by decide +kernel⟩ "*" (by decide +kernel),
  everywhere ⟨"access-control-max-age", by decide +kernel⟩ "600" (by decide +kernel),
  everywhere ⟨"access-control-allow-credentials", by decide +kernel⟩ "false" (by decide +kernel)]

def builtIn (defaults : Defaults) : List HeaderRule :=
  (if defaults.securityHeaders then security else []) ++ (if defaults.cors then crossOrigin else [])

def ofEntry (entry : HeaderEntry) : Except CompileError HeaderRule :=
  compile entry.path entry.name entry.value

def compileAll (defaults : Defaults) (entries : List HeaderEntry) :
    Except CompileError (List HeaderRule) := do
  return builtIn defaults ++ (← entries.mapM ofEntry)

def matching (rules : List HeaderRule) (path : String) : List HeaderRule :=
  rules.filter (·.glob.isMatch path)

def set (headers : HeaderMap) (rule : HeaderRule) : HeaderMap :=
  headers.insert rule.name rule.value

def inject (rules : List HeaderRule) (path : String) (headers : HeaderMap) : HeaderMap :=
  (matching rules path).foldl set headers

end HeaderRule

end EdgeRouting
