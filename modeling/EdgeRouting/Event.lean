/-!
# Events

What the program does besides answering: notices for the log, and counters. Every function that has
such effects returns them in order, so a total is a sum over the events of a run.
-/

namespace EdgeRouting

inductive Level
  | debug | info | warn | error
  deriving DecidableEq, Repr

namespace Level

def text : Level → String
  | .debug => "DEBUG"
  | .info => "INFO"
  | .warn => "WARN"
  | .error => "ERROR"

def rank : Level → Nat
  | .error => 1
  | .warn => 2
  | .info => 3
  | .debug => 4

end Level

inductive Notice
  | policyDiagnostic (diagnostic : String)
  | rulesCompiled (redirects rewrites headerRules diagnostics : Nat)
  | rewriteMatched (source path destination : String)
  | redirectMatched (source path destination : String)
  | redirectWithoutHost (path : String)
  | redirectNotBuilt (path : String)
  | uriNotRewritten (path destination : String)
  | answeredAtEdge (requestId path status : String)
  | forwardingToOrigin (requestId viewerPath originPath cacheKey : String)
  | originRequestNotBuilt (requestId : String)
  | originFailed (requestId : String)
  | emulatorStarting (address : String)
  | emulatorStopped
  | configurationLoaded (path : String)
  | bundleWritten (path : String)
  | metricsListening (address : String)
  | listening (address origin : String)
  deriving DecidableEq, Repr

namespace Notice

def level : Notice → Level
  | .rewriteMatched .. | .redirectMatched .. | .answeredAtEdge .. | .forwardingToOrigin .. => .debug
  | .rulesCompiled .. | .emulatorStarting _ | .emulatorStopped | .configurationLoaded _
  | .bundleWritten _ | .metricsListening _ | .listening .. => .info
  | .policyDiagnostic _ | .redirectWithoutHost _ => .warn
  | .redirectNotBuilt _ | .uriNotRewritten .. | .originRequestNotBuilt _ | .originFailed _ => .error

def target : Notice → String
  | .policyDiagnostic _ => "edge_rules::cache::policy"
  | .rulesCompiled .. => "edge_rules::bundle"
  | .rewriteMatched .. => "edge_rules::edge::rewrite"
  | .redirectMatched .. | .redirectWithoutHost _ | .redirectNotBuilt _ | .uriNotRewritten .. =>
    "edge_rules::edge::handler"
  | .answeredAtEdge .. | .forwardingToOrigin .. | .originRequestNotBuilt _ | .originFailed _
  | .emulatorStarting _ | .emulatorStopped => "edge_rules::http::server"
  | .configurationLoaded _ | .bundleWritten _ | .listening .. => "edge_rules"
  | .metricsListening _ => "edge_rules::observability::metrics"

def message : Notice → String
  | .policyDiagnostic _ => "Cache key policy diagnostic"
  | .rulesCompiled .. => "Edge rules compiled"
  | .rewriteMatched .. => "Rewrite matched"
  | .redirectMatched .. => "Redirect matched"
  | .redirectWithoutHost _ => "Redirect matched but request has no host; passing through"
  | .redirectNotBuilt _ => "Failed to build redirect; passing through"
  | .uriNotRewritten .. => "Failed to rewrite URI; passing through"
  | .answeredAtEdge .. => "Answered at edge"
  | .forwardingToOrigin .. => "Forwarding to origin"
  | .originRequestNotBuilt _ => "Failed to build origin request"
  | .originFailed _ => "Upstream error"
  | .emulatorStarting _ => "Edge emulator starting"
  | .emulatorStopped => "Edge emulator stopped"
  | .configurationLoaded _ => "Configuration loaded"
  | .bundleWritten _ => "Bundle written"
  | .metricsListening _ => "Metrics exporter listening"
  | .listening .. => "Listening for connections"

/-- Stands for the cause of a failure, which a line does not carry. -/
def cause : String × String := ("error", "<error>")

def fields : Notice → List (String × String)
  | .policyDiagnostic diagnostic => [("diagnostic", diagnostic)]
  | .rulesCompiled redirects rewrites headerRules diagnostics =>
    [("redirects", toString redirects), ("rewrites", toString rewrites),
      ("header_rules", toString headerRules), ("diagnostics", toString diagnostics)]
  | .rewriteMatched source path destination =>
    [("source", source), ("from", path), ("to", destination)]
  | .redirectMatched source path destination =>
    [("rule", source), ("from", path), ("to", destination)]
  | .redirectWithoutHost path => [("path", path)]
  | .redirectNotBuilt path => [("path", path), cause]
  | .uriNotRewritten path destination => [("from", path), ("to", destination), cause]
  | .answeredAtEdge requestId path status =>
    [("request_id", requestId), ("path", path), ("status", status)]
  | .forwardingToOrigin requestId viewerPath originPath cacheKey =>
    [("request_id", requestId), ("viewer_path", viewerPath), ("origin_path", originPath),
      ("cache_key", cacheKey)]
  | .originRequestNotBuilt requestId | .originFailed requestId => [("request_id", requestId), cause]
  | .emulatorStarting address | .metricsListening address => [("address", address)]
  | .emulatorStopped => []
  | .configurationLoaded path => [("config", path)]
  | .bundleWritten path => [("path", path)]
  | .listening address origin => [("address", address), ("origin", origin)]

/-- The message is a field as well. -/
def fieldNames (notice : Notice) : List String :=
  "message" :: notice.fields.map (·.1)

def line (notice : Notice) : String :=
  s!"{notice.level.text} {notice.target}: {notice.message}"
    ++ String.join (notice.fields.map fun (name, value) => s!" {name}={value}")

end Notice

/-- Where a request failed closed. -/
inductive FaultStage
  | request
  | origin
  deriving DecidableEq, Repr

inductive Counter
  | redirects
  | rewrites
  | headerRulesApplied
  | handlerFaults (stage : FaultStage)
  | originRequests (status : Nat)
  deriving DecidableEq, Repr

def Counter.text : Counter → String
  | .redirects => "edge_redirects_total"
  | .rewrites => "edge_rewrites_total"
  | .headerRulesApplied => "edge_header_rules_applied_total"
  | .handlerFaults .request => "edge_handler_faults_total\x7bstage=request\x7d"
  | .handlerFaults .origin => "edge_handler_faults_total\x7bstage=origin\x7d"
  | .originRequests status => s!"edge_origin_requests_total\x7bstatus={status}\x7d"

inductive Event
  | notice (notice : Notice)
  | count (counter : Counter) (amount : Nat)
  deriving DecidableEq, Repr

namespace Event

def amount (counter : Counter) : Event → Nat
  | .count c n => if c = counter then n else 0
  | .notice _ => 0

def total (counter : Counter) : List Event → Nat
  | [] => 0
  | event :: events => event.amount counter + total counter events

def notice? : Event → Option Notice
  | .notice n => some n
  | .count .. => none

def counter? : Event → Option Counter
  | .count c _ => some c
  | .notice _ => none

def totals (events : List Event) : List (Counter × Nat) :=
  ((events.filterMap counter?).eraseDups).map fun counter => (counter, total counter events)

def lines (events : List Event) : List String :=
  (events.filterMap notice?).map Notice.line

end Event

end EdgeRouting
