/-!
# Selectors

A selector says which names take part in the cache key and are forwarded to the origin.
-/

namespace EdgeRouting

inductive Selector
  | none
  | allowList (names : List String)
  deriving DecidableEq, Repr

inductive QuerySelector
  | none
  | allowList (names : List String)
  | allExcept (names : List String)
  deriving DecidableEq, Repr

def Selector.includes (name : String) : Selector → Bool
  | .none => false
  | .allowList names => names.contains name

def QuerySelector.includes (name : String) : QuerySelector → Bool
  | .none => false
  | .allowList names => names.contains name
  | .allExcept names => !names.contains name

structure CacheDescriptor where
  headers : Selector := .none
  cookies : Selector := .none
  queryStrings : QuerySelector := .none
  deriving DecidableEq, Repr

end EdgeRouting
