import EdgeRouting.CacheKey.Selector
import EdgeRouting.Config.Basic
import EdgeRouting.Event
import EdgeRouting.Text.Quoted

/-!
# From lists to selectors

Repeated names are dropped and reported. A non-empty list of allowed query parameters overrides the
list of denied ones.
-/

namespace EdgeRouting

inductive PolicyList
  | allowHeaders | allowCookies | allowQueryParams | denyQueryParams
  deriving DecidableEq, Repr

def PolicyList.text : PolicyList → String
  | .allowHeaders => "allow_headers"
  | .allowCookies => "allow_cookies"
  | .allowQueryParams => "allow_query_params"
  | .denyQueryParams => "deny_query_params"

/-- What a policy says that has no effect. -/
inductive Diagnostic
  | duplicateEntry (list : PolicyList) (name : String)
  | queryDenyListIgnored (ignored : List String)
  deriving DecidableEq, Repr

def Diagnostic.message : Diagnostic → String
  | .duplicateEntry list name => s!"{list.text} lists '{name}' more than once"
  | .queryDenyListIgnored ignored =>
    "allow_query_params and deny_query_params are both set; " ++
      s!"the deny list {Quoted.list ignored} is ignored"

namespace CachePolicy

/-- Each entry that equals an earlier one, in order. -/
def repeatsFrom (seen : List String) : List String → List String
  | [] => []
  | name :: names =>
    if name ∈ seen then name :: repeatsFrom seen names else repeatsFrom (name :: seen) names

def repeats (list : PolicyList) (names : List String) : List Diagnostic :=
  (repeatsFrom [] names).map (.duplicateEntry list)

def asciiLower (name : String) : String :=
  String.ofList (name.toList.map Char.toLower)

def selector (names : List String) : Selector :=
  if names.isEmpty then .none else .allowList names.eraseDups

def querySelector (allow deny : List String) : QuerySelector :=
  if !allow.isEmpty then .allowList allow.eraseDups
  else if !deny.isEmpty then .allExcept deny.eraseDups
  else .none

def headerNames (policy : CachePolicy) : List String :=
  policy.allowHeaders.map asciiLower

def descriptor (policy : CachePolicy) : CacheDescriptor where
  headers := selector policy.headerNames
  cookies := selector policy.allowCookies
  queryStrings := querySelector policy.allowQueryParams policy.denyQueryParams

def diagnostics (policy : CachePolicy) : List Diagnostic :=
  repeats .allowHeaders policy.headerNames
    ++ repeats .allowCookies policy.allowCookies
    ++ repeats .allowQueryParams policy.allowQueryParams
    ++ repeats .denyQueryParams policy.denyQueryParams
    ++ (if !policy.allowQueryParams.isEmpty && !policy.denyQueryParams.isEmpty
        then [.queryDenyListIgnored policy.denyQueryParams.eraseDups] else [])

def notices (policy : CachePolicy) : List Notice :=
  policy.diagnostics.map fun d => .policyDiagnostic d.message

end CachePolicy

end EdgeRouting
