/-!
# Why a rule is refused

Positions are byte offsets into the text that is named.
-/

namespace EdgeRouting

/-- A stored compiled form that differs from what its rule compiles to. -/
inductive Inconsistency
  | rulePattern (source : String)
  | ruleCaptureOrder (source : String)
  | ruleTemplate (source : String)
  | globPattern (glob : String)
  deriving DecidableEq, Repr

inductive CompileError
  | invalidPath (pattern : String)
  | unterminatedParameter (pattern : String) (position : Nat)
  | duplicateParameter (pattern name : String)
  | undefinedParameter (source destination name : String)
  | excessWildcards (source destination : String) (used defined : Nat)
  | unbalancedBrace (glob : String) (position : Nat)
  | invalidAlternation (glob : String) (position : Nat)
  | invalidHeaderName (name : String)
  | invalidHeaderValue (name : String)
  | expressionTooLarge (limit : Nat)
  | inconsistent (what : Inconsistency)
  deriving DecidableEq, Repr

def Inconsistency.message : Inconsistency → String
  | .rulePattern source => s!"stored pattern for '{source}' does not match its compiled form"
  | .ruleCaptureOrder source =>
    s!"stored capture order for '{source}' does not match its compiled form"
  | .ruleTemplate source =>
    s!"stored destination template for '{source}' does not match its compiled form"
  | .globPattern glob => s!"stored pattern for glob '{glob}' does not match its compiled form"

def CompileError.message : CompileError → String
  | .invalidPath pattern =>
    s!"pattern '{pattern}' must be an absolute path without query or fragment"
  | .unterminatedParameter pattern position =>
    s!"pattern '{pattern}' has an unterminated parameter at byte {position}"
  | .duplicateParameter pattern name =>
    s!"pattern '{pattern}' declares parameter ':{name}' more than once"
  | .undefinedParameter source destination name =>
    s!"destination '{destination}' references ':{name}', which source '{source}' does not define"
  | .excessWildcards source destination used defined =>
    s!"destination '{destination}' uses {used} wildcard(s) but source '{source}' defines {defined}"
  | .unbalancedBrace glob position => s!"glob '{glob}' has an unbalanced brace at byte {position}"
  | .invalidAlternation glob position =>
    s!"glob '{glob}' has an empty or nested alternation at byte {position}"
  | .invalidHeaderName name => s!"invalid header name '{name}'"
  | .invalidHeaderValue name => s!"invalid value for header '{name}'"
  | .expressionTooLarge limit =>
    s!"compiled expression rejected: Compiled regex exceeds size limit of {limit} bytes."
  | .inconsistent what => s!"compiled rule is inconsistent: {what.message}"

end EdgeRouting
