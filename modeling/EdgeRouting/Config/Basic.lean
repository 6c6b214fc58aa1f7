/-!
# Configuration

What a site configures, with the values that stand where it says nothing.
-/

namespace EdgeRouting

structure RuleEntry where
  source : String
  destination : String
  deriving DecidableEq, Repr

structure HeaderEntry where
  path : String
  name : String
  value : String
  deriving DecidableEq, Repr

/-- The names that take part in the cache key. An empty list counts as absent. -/
structure CachePolicy where
  allowHeaders : List String := []
  allowCookies : List String := []
  allowQueryParams : List String := []
  denyQueryParams : List String := []
  deriving DecidableEq, Repr

structure Defaults where
  securityHeaders : Bool := true
  cors : Bool := true
  spaFallback : Bool := true
  deriving DecidableEq, Repr

structure Preview where
  bindAddress : String := "127.0.0.1:8080"
  origin : String := "127.0.0.1:3000"
  requestTimeoutSecs : Nat := 30
  deriving DecidableEq, Repr

structure Observability where
  logLevel : String := "info"
  metricsEnabled : Bool := false
  metricsAddress : String := "127.0.0.1:9090"
  deriving DecidableEq, Repr

structure Config where
  redirects : List RuleEntry := []
  rewrites : List RuleEntry := []
  headers : List HeaderEntry := []
  cachePolicy : CachePolicy := {}
  defaults : Defaults := {}
  preview : Preview := {}
  observability : Observability := {}
  deriving DecidableEq, Repr

end EdgeRouting
