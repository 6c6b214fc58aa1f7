import EdgeRouting.Hook.Resolution
import EdgeRouting.Http.Message

/-!
# The request hook

A viewer's request is answered with a redirect or goes on, possibly with another path. Whatever
cannot be built leaves the request as it came.
-/

namespace EdgeRouting

namespace Redirect

def location (host path : String) : String :=
  "https://" ++ host ++ path

def response? (host path : String) : Option Response := do
  let value ← HeaderValue.ofText? (location host path)
  return {
    status := .movedPermanently
    headers := HeaderMap.empty.append .location value
    body := [] }

end Redirect

inductive RequestOutcome
  | forward (request : Request)
  | respond (response : Response)
  deriving DecidableEq

/-- The host a viewer asked: the first host header if it can be read, else the authority, unless
empty. -/
def Request.host? (request : Request) : Option String :=
  (((request.headers.get? .host).bind HeaderValue.readable?).or
    (request.uri.authority.map (·.text))).filter (· ≠ "")

namespace RequestHook

def passThrough (request : Request) (why : Notice) : RequestOutcome × List Event :=
  (.forward request, [.notice why, .count (.handlerFaults .request) 1])

def redirect (request : Request) (found : Rule.Match) : RequestOutcome × List Event :=
  match request.host? with
  | none => passThrough request (.redirectWithoutHost request.uri.path)
  | some host =>
    match Redirect.response? host found.path with
    | none => passThrough request (.redirectNotBuilt request.uri.path)
    | some response =>
      (.respond response,
        [.notice (.redirectMatched found.rule.source request.uri.path found.path),
          .count .redirects 1])

/-- Goes on with `path`, noting the path the viewer asked for. -/
def forward (request : Request) (path : String) : RequestOutcome × List Event :=
  if path = request.uri.path then
    (.forward { request with viewerPath := some request.uri.path }, [])
  else
    match request.uri.withPath? path with
    | none => passThrough request (.uriNotRewritten request.uri.path path)
    | some uri => (.forward { request with uri, viewerPath := some request.uri.path }, [])

def handle (hook : RequestHook) (request : Request) : RequestOutcome × List Event :=
  let resolution := hook.resolve request.uri.path
  let noted := (resolution.notices request.uri.path).map Event.notice
  match resolution with
  | .redirect found =>
    let (outcome, events) := redirect request found
    (outcome, noted ++ events)
  | .forward path rewrite =>
    let (outcome, events) := forward request path
    (outcome, noted ++ (if rewrite.isSome then [.count .rewrites 1] else []) ++ events)

end RequestHook

end EdgeRouting
