import EdgeRouting.Event
import EdgeRouting.Header.Rule
import EdgeRouting.Http.Message

/-!
# The response hook

Header rules are chosen by the path the viewer asked for.
-/

namespace EdgeRouting

structure ResponseHook where
  rules : List HeaderRule := []
  deriving DecidableEq

namespace ResponseHook

def inject (hook : ResponseHook) (path : String) (response : Response) : Response × List Event :=
  let applied := (HeaderRule.matching hook.rules path).length
  ({ response with headers := HeaderRule.inject hook.rules path response.headers },
    if applied = 0 then [] else [.count .headerRulesApplied applied])

/-- Injects the headers for a forwarded request: by the path noted on it, else by its own. -/
def handle (hook : ResponseHook) (request : Request) (response : Response) :
    Response × List Event :=
  hook.inject (request.viewerPath.getD request.uri.path) response

end ResponseHook

end EdgeRouting
