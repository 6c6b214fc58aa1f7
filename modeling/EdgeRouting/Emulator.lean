import EdgeRouting.Bundle.Basic
import EdgeRouting.CacheKey.Key
import EdgeRouting.Hook.Request

/-!
# The emulator

The emulator stands between viewers and one origin. It runs the request hook, sends on what survives
as the cache policy allows, and runs the response hook on the reply.
-/

namespace EdgeRouting

/-- What an origin replies to a request; nothing if it cannot be reached or makes no sense. -/
abbrev Origin := Request → Option Response

structure Emulator where
  bundle : Bundle
  origin : Authority
  deriving DecidableEq

structure Exchange where
  response : Response
  sent : List Request
  events : List Event
  deriving DecidableEq

namespace Emulator

structure InvalidOrigin where
  text : String
  deriving DecidableEq, Repr

def InvalidOrigin.message (e : InvalidOrigin) : String :=
  s!"invalid origin '{e.text}'"

def ofBundle (bundle : Bundle) (preview : Preview) : Except InvalidOrigin Emulator :=
  match Authority.ofText? preview.origin with
  | some origin => .ok ⟨bundle, origin⟩
  | none => .error ⟨preview.origin⟩

def forwardCookies? (policy : CacheDescriptor) (headers : HeaderMap) : Option HeaderMap :=
  match policy.forwardedCookies? headers with
  | none => some (headers.remove .cookie)
  | some cookies => (HeaderValue.ofText? cookies).map fun value => headers.insert .cookie value

/-- The request to the origin, with the query and the cookies that the cache policy selects. -/
def originRequest? (e : Emulator) (request : Request) : Option Request := do
  let policy := e.bundle.cachePolicy
  let (path, query) ← Uri.pathAndQuery?
    (request.uri.path ++ Uri.queryText (policy.forwardedQuery? request.uri.query))
  let headers ← forwardCookies? policy request.headers
  let uri : Uri := { scheme := some "http", authority := some e.origin, path, query }
  return { request with uri, headers }

def plainText : HeaderValue :=
  ⟨Utf8.encode "text/plain; charset=utf-8", by decide +kernel⟩

def say (status : Status) (words : String) : Response :=
  { status, headers := HeaderMap.empty.append .contentType plainText, body := Utf8.encode words }

def unreachable : Response :=
  say .badGateway "Upstream request failed"

def notBuilt : Response :=
  say .internalServerError "Internal Server Error"

def requestIdText (request : Request) : String :=
  ((request.headers.get? .requestId).bind HeaderValue.readable?).getD "unknown"

def forward (e : Emulator) (origin : Origin) (viewerPath : String) (request : Request) : Exchange :=
  let id := requestIdText request
  let key := e.bundle.cachePolicy.cacheKey request
  let forwarding : Event := .notice (.forwardingToOrigin id viewerPath request.uri.path key)
  match e.originRequest? request with
  | none =>
    ⟨notBuilt, [],
      [forwarding, .notice (.originRequestNotBuilt id), .count (.handlerFaults .origin) 1]⟩
  | some sent =>
    match origin sent with
    | none =>
      ⟨unreachable, [sent],
        [forwarding, .notice (.originFailed id),
          .count (.originRequests unreachable.status.code) 1]⟩
    | some reply =>
      let (response, injected) := e.bundle.response.inject viewerPath reply
      ⟨response, [sent], [forwarding, .count (.originRequests reply.status.code) 1] ++ injected⟩

def handle (e : Emulator) (origin : Origin) (request : Request) : Exchange :=
  let path := request.uri.path
  let (outcome, events) := e.bundle.request.handle request
  match outcome with
  | .respond response =>
    ⟨response, [], events ++
      [.notice (.answeredAtEdge (requestIdText request) path response.status.text)]⟩
  | .forward request =>
    let exchange := e.forward origin path request
    { exchange with events := events ++ exchange.events }

def notFound : Response :=
  { status := .notFound, headers := HeaderMap.empty, body := [] }

/-- Only paths from the root are routed. -/
def route (e : Emulator) (origin : Origin) (request : Request) : Exchange :=
  if request.uri.path.toList.head? = some '/' then e.handle origin request
  else ⟨notFound, [], []⟩

def identify (fresh : HeaderValue) (request : Request) : Request :=
  if (request.headers.get? .requestId).isSome then request
  else { request with headers := request.headers.insert .requestId fresh }

def supply (headers : HeaderMap) (name : HeaderName) (value : Option HeaderValue) : HeaderMap :=
  match headers.get? name, value with
  | none, some value => headers.append name value
  | _, _ => headers

def lengthValue? (body : List UInt8) : Option HeaderValue :=
  HeaderValue.ofText? (toString body.length)

def head : Method :=
  ⟨"HEAD", by decide +kernel⟩

/-- Completes a response with its length and the identity of its request. To a request for the head
the body is left out. -/
def complete (request : Request) (response : Response) : Response :=
  { response with
    headers := supply (supply response.headers .contentLength (lengthValue? response.body))
      .requestId (request.headers.get? .requestId)
    body := if request.method = head then [] else response.body }

/-- Answers a viewer's request from end to end, with an identity in case it has none. -/
def serve (e : Emulator) (origin : Origin) (fresh : HeaderValue) (request : Request) : Exchange :=
  let request := identify fresh request
  let exchange := e.route origin request
  { exchange with response := complete request exchange.response }

/-- What is noted from start to stop while no request comes. -/
def idleNotices (address : String) : List Notice :=
  [.emulatorStarting address, .emulatorStopped]

end Emulator

end EdgeRouting
