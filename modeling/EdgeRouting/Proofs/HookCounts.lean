import EdgeRouting.Config.Check
import EdgeRouting.Proofs.FilePaths
import EdgeRouting.Proofs.PassedThrough

/-!
# What the request hook counts

A total over a run is the sum of what the requests add, and what a request adds at the hook depends
on what the rules make of it alone. Rewrites are counted when a rule matches and before the new URI
is built. So the counter also counts the requests that go on as they would without the rule, and
those that cannot be built are counted among the faults as well.
-/

namespace EdgeRouting

namespace Event

variable (counter : Counter)

@[simp]
theorem total_nil : total counter [] = 0 := rfl

@[simp]
theorem total_cons (event : Event) (events : List Event) :
    total counter (event :: events) = event.amount counter + total counter events := rfl

@[simp]
theorem total_append (events later : List Event) :
    total counter (events ++ later) = total counter events + total counter later := by
  induction events with
  | nil => simp
  | cons event events ih => rw [List.cons_append, total_cons, total_cons, ih, Nat.add_assoc]

@[simp]
theorem amount_notice (note : Notice) : amount counter (.notice note) = 0 := rfl

@[simp]
theorem amount_count (counted : Counter) (n : Nat) :
    amount counter (.count counted n) = if counted = counter then n else 0 := rfl

end Event

def RequestOutcome.path? : RequestOutcome → Option String
  | .forward request => some request.uri.path
  | .respond _ => none

namespace RequestHook

def answer? (hook : RequestHook) (request : Request) : Option Response :=
  match hook.resolve request.uri.path with
  | .redirect found => request.host?.bind fun host => Redirect.response? host found.path
  | .forward .. => none

def rewrite? (hook : RequestHook) (request : Request) : Option Rule.Match :=
  match hook.resolve request.uri.path with
  | .redirect _ => none
  | .forward _ rewrite => rewrite

/-- A redirect matches and its answer cannot be built, or the path changes and the new URI cannot be
built. -/
def unbuilt (hook : RequestHook) (request : Request) : Bool :=
  match hook.resolve request.uri.path with
  | .redirect found => (request.host?.bind fun host => Redirect.response? host found.path).isNone
  | .forward path _ => path ≠ request.uri.path ∧ request.uri.withPath? path = none

variable {hook : RequestHook} {request : Request} {found : Rule.Match} {path : String}
  {rewrite : Option Rule.Match}

theorem answer?_of_redirect (h : hook.resolve request.uri.path = .redirect found) :
    hook.answer? request = request.host?.bind fun host => Redirect.response? host found.path := by
  rw [answer?, h]

theorem answer?_of_forward (h : hook.resolve request.uri.path = .forward path rewrite) :
    hook.answer? request = none := by
  rw [answer?, h]

theorem rewrite?_of_redirect (h : hook.resolve request.uri.path = .redirect found) :
    hook.rewrite? request = none := by
  rw [rewrite?, h]

theorem rewrite?_of_forward (h : hook.resolve request.uri.path = .forward path rewrite) :
    hook.rewrite? request = rewrite := by
  rw [rewrite?, h]

theorem unbuilt_of_redirect (h : hook.resolve request.uri.path = .redirect found) :
    hook.unbuilt request = (hook.answer? request).isNone := by
  rw [unbuilt, answer?_of_redirect h, h]

theorem unbuilt_of_forward (h : hook.resolve request.uri.path = .forward path rewrite) :
    hook.unbuilt request =
      decide (path ≠ request.uri.path ∧ request.uri.withPath? path = none) := by
  rw [unbuilt, h]

theorem total_rewriteEvents (counter : Counter) (path : String) (rewrite : Option Rule.Match) :
    Event.total counter (rewriteEvents path rewrite) =
      if rewrite.isSome ∧ counter = .rewrites then 1 else 0 := by
  cases rewrite with
  | none => rfl
  | some found => simp [rewriteEvents, eq_comm]

theorem total_passThrough (counter : Counter) (request : Request) (why : Notice) :
    Event.total counter (passThrough request why).2 =
      if counter = .handlerFaults .request then 1 else 0 := by
  simp [passThrough, eq_comm]

theorem outcome_eq_respond_iff {response : Response} :
    (hook.handle request).1 = .respond response ↔ hook.answer? request = some response := by
  have hhandled := hook.handled request
  generalize hook.handle request = result at hhandled
  cases hhandled with
  | redirected hresolve hhost hbuilt => simp [answer?_of_redirect hresolve, hhost, hbuilt]
  | hostUnknown hresolve hhostless => simp [answer?_of_redirect hresolve, hhostless, passThrough]
  | locationIllegal hresolve hhost hunbuilt =>
    simp [answer?_of_redirect hresolve, hhost, hunbuilt, passThrough]
  | kept hresolve | replaced hresolve | uriIllegal hresolve => simp [answer?_of_forward hresolve]

theorem answer?_eq_none_of_outcome {forwarded : Request}
    (h : (hook.handle request).1 = .forward forwarded) : hook.answer? request = none := by
  rw [Option.eq_none_iff_forall_ne_some]
  intro response hanswer
  rw [outcome_eq_respond_iff.2 hanswer] at h
  cases h

/-- What a request adds to each counter. -/
theorem total_handle (hook : RequestHook) (request : Request) (counter : Counter) :
    Event.total counter (hook.handle request).2 =
      (if (hook.answer? request).isSome ∧ counter = .redirects then 1 else 0) +
      (if (hook.rewrite? request).isSome ∧ counter = .rewrites then 1 else 0) +
      (if hook.unbuilt request ∧ counter = .handlerFaults .request then 1 else 0) := by
  have hhandled := hook.handled request
  generalize hresult : hook.handle request = result at hhandled
  cases hhandled with
  | redirected hresolve hhost hbuilt =>
    have hanswer := outcome_eq_respond_iff.1 (congrArg Prod.fst hresult)
    rw [unbuilt_of_redirect hresolve, rewrite?_of_redirect hresolve, hanswer]
    simp [eq_comm]
  | hostUnknown hresolve | locationIllegal hresolve =>
    have hanswer := answer?_eq_none_of_outcome (congrArg Prod.fst hresult)
    rw [unbuilt_of_redirect hresolve, rewrite?_of_redirect hresolve, hanswer, total_passThrough]
    simp
  | kept hresolve =>
    rw [answer?_of_forward hresolve, rewrite?_of_forward hresolve, unbuilt_of_forward hresolve,
      total_rewriteEvents]
    simp
  | replaced hresolve hchanged hbuilt =>
    rw [answer?_of_forward hresolve, rewrite?_of_forward hresolve, unbuilt_of_forward hresolve,
      total_rewriteEvents, hbuilt]
    simp
  | uriIllegal hresolve hchanged hunbuilt =>
    rw [answer?_of_forward hresolve, rewrite?_of_forward hresolve, unbuilt_of_forward hresolve,
      Event.total_append, total_rewriteEvents, total_passThrough, hunbuilt]
    simp [hchanged]

theorem status_of_answer? {response : Response} (h : hook.answer? request = some response) :
    response.status = .movedPermanently := by
  cases hresolve : hook.resolve request.uri.path with
  | redirect found =>
    rw [answer?_of_redirect hresolve, Option.bind_eq_some_iff] at h
    obtain ⟨host, -, hbuilt⟩ := h
    simp only [Redirect.response?, Option.bind_eq_bind, Option.bind_eq_some_iff] at hbuilt
    obtain ⟨value, -, hresponse⟩ := hbuilt
    cases hresponse
    rfl
  | forward path rewrite => simp [answer?_of_forward hresolve] at h

theorem failsClosed_iff_unbuilt : hook.FailsClosed request ↔ hook.unbuilt request = true := by
  rw [FailsClosed]
  have hhandled := hook.handled request
  generalize hresult : hook.handle request = result at hhandled
  cases hhandled with
  | redirected hresolve hhost hbuilt =>
    have hanswer := outcome_eq_respond_iff.1 (congrArg Prod.fst hresult)
    simp [unbuilt_of_redirect hresolve, hanswer]
  | hostUnknown hresolve | locationIllegal hresolve =>
    have hanswer := answer?_eq_none_of_outcome (congrArg Prod.fst hresult)
    simp [unbuilt_of_redirect hresolve, hanswer, passThrough]
  | kept hresolve => simp [unbuilt_of_forward hresolve, fault_notMem_rewriteEvents]
  | replaced hresolve hchanged hbuilt =>
    simp [unbuilt_of_forward hresolve, hbuilt, fault_notMem_rewriteEvents]
  | uriIllegal hresolve hchanged hunbuilt =>
    simp [unbuilt_of_forward hresolve, hchanged, hunbuilt, passThrough]

theorem outcome_of_unbuilt (h : hook.unbuilt request = true) :
    (hook.handle request).1 = .forward request :=
  (failsClosed_iff_unbuilt.2 h).outcome

/-- A rewrite gives another path than the one that came, and another path goes on. -/
def Replaces (hook : RequestHook) (request : Request) : Prop :=
  ∃ found ∈ hook.rewrite? request, found.path ≠ request.uri.path ∧
    ∃ path ∈ (hook.handle request).1.path?, path ≠ request.uri.path

/-- A rewrite gives the path that came, or the index document makes that path of what it gives. -/
def Keeps (hook : RequestHook) (request : Request) : Prop :=
  ∃ found ∈ hook.rewrite? request, hook.unbuilt request = false ∧
    (found.path = request.uri.path ∨ hook.completed found.path = request.uri.path)

def Abandons (hook : RequestHook) (request : Request) : Prop :=
  (hook.rewrite? request).isSome ∧ hook.unbuilt request

instance (hook : RequestHook) : DecidablePred hook.Replaces :=
  fun _ => inferInstanceAs (Decidable (∃ found ∈ (_ : Option Rule.Match), _))

instance (hook : RequestHook) : DecidablePred hook.Keeps :=
  fun _ => inferInstanceAs (Decidable (∃ found ∈ (_ : Option Rule.Match), _))

instance (hook : RequestHook) : DecidablePred hook.Abandons :=
  fun _ => inferInstanceAs (Decidable (_ ∧ _))

theorem resolve_of_rewrite? (h : hook.rewrite? request = some found) :
    hook.resolve request.uri.path = .forward (hook.completed found.path) (some found) := by
  cases hresolve : hook.resolve request.uri.path with
  | redirect other =>
    rw [rewrite?_of_redirect hresolve] at h
    cases h
  | forward path rewrite =>
    rw [rewrite?_of_forward hresolve] at h
    obtain ⟨-, -, hcompleted⟩ := resolve_eq_forward_iff.1 hresolve
    rw [h, ← hcompleted, h]
    rfl

theorem unbuilt_of_rewrite? (h : hook.rewrite? request = some found) :
    hook.unbuilt request = decide (hook.completed found.path ≠ request.uri.path ∧
      request.uri.withPath? (hook.completed found.path) = none) :=
  unbuilt_of_forward (resolve_of_rewrite? h)

/-- Where the new URI can be built, the path that the rules give goes on. -/
theorem IsCompiled.outcome_of_rewrite? (hhook : hook.IsCompiled) (huri : request.uri.IsLegal)
    (hrewrite : hook.rewrite? request = some found) (hbuilt : hook.unbuilt request = false) :
    (hook.handle request).1 = .forward { request with
      uri := { request.uri with path := hook.completed found.path }
      viewerPath := some request.uri.path } := by
  have hresolve := resolve_of_rewrite? hrewrite
  by_cases hsame : hook.completed found.path = request.uri.path
  · rw [handle, hresolve]
    simp [forward, hsame]
  · cases hwith : request.uri.withPath? (hook.completed found.path) with
    | none => simp [unbuilt_of_rewrite? hrewrite, hsame, hwith] at hbuilt
    | some uri =>
      rw [handle, hresolve]
      simp [forward, hsame, hwith, hhook.eq_of_withPath? huri hresolve hsame hwith]

theorem completed_completed (hook : RequestHook) (path : String) :
    hook.completed (hook.completed path) = hook.completed path := by
  rw [completed, completed]
  split
  · exact IndexDocument.complete_complete path
  · rfl

/-- What goes on is what would go on without the rewrite. -/
theorem completed_of_keeps (h : hook.Keeps request) : ∃ found, hook.rewrite? request = some found ∧
    hook.unbuilt request = false ∧
    hook.completed found.path = hook.completed request.uri.path := by
  obtain ⟨found, hrewrite, hbuilt, hown | hcompleted⟩ := h
  · exact ⟨found, hrewrite, hbuilt, by rw [hown]⟩
  · refine ⟨found, hrewrite, hbuilt, ?_⟩
    rw [← hcompleted, completed_completed]

theorem IsCompiled.outcome_of_keeps (hhook : hook.IsCompiled) (huri : request.uri.IsLegal)
    (h : hook.Keeps request) :
    (hook.handle request).1 = .forward { request with
      uri := { request.uri with path := hook.completed request.uri.path }
      viewerPath := some request.uri.path } := by
  obtain ⟨found, hrewrite, hbuilt, hcompleted⟩ := completed_of_keeps h
  rw [hhook.outcome_of_rewrite? huri hrewrite hbuilt, hcompleted]

theorem IsCompiled.replaces_iff (hhook : hook.IsCompiled) (huri : request.uri.IsLegal) :
    hook.Replaces request ↔ ∃ found, hook.rewrite? request = some found ∧
      found.path ≠ request.uri.path ∧ hook.completed found.path ≠ request.uri.path ∧
      hook.unbuilt request = false := by
  constructor
  · rintro ⟨found, hrewrite, hown, path, hpath, hchanged⟩
    cases hunbuilt : hook.unbuilt request with
    | true =>
      rw [outcome_of_unbuilt hunbuilt] at hpath
      cases hpath
      exact absurd rfl hchanged
    | false =>
      rw [hhook.outcome_of_rewrite? huri hrewrite hunbuilt] at hpath
      cases hpath
      exact ⟨found, hrewrite, hown, hchanged, rfl⟩
  · rintro ⟨found, hrewrite, hown, hchanged, hbuilt⟩
    refine ⟨found, hrewrite, hown, hook.completed found.path, ?_, hchanged⟩
    rw [hhook.outcome_of_rewrite? huri hrewrite hbuilt]
    rfl

/-- The new URI cannot be built exactly where it cannot hold the path that the rules give. -/
theorem IsCompiled.abandons_iff (hhook : hook.IsCompiled) (huri : request.uri.IsLegal) :
    hook.Abandons request ↔ ∃ found, hook.rewrite? request = some found ∧
      hook.completed found.path ≠ request.uri.path ∧
      ¬ request.uri.CanHold (hook.completed found.path) := by
  constructor
  · rintro ⟨hsome, hunbuilt⟩
    obtain ⟨found, hrewrite⟩ := Option.isSome_iff_exists.1 hsome
    rw [unbuilt_of_rewrite? hrewrite, decide_eq_true_eq] at hunbuilt
    obtain ⟨hchanged, hwith⟩ := hunbuilt
    have hholds := hhook.withPath?_eq_none_iff huri (resolve_of_rewrite? hrewrite) hchanged
    exact ⟨found, hrewrite, hchanged, hholds.1 hwith⟩
  · rintro ⟨found, hrewrite, hchanged, hholds⟩
    have hwith := hhook.withPath?_eq_none_iff huri (resolve_of_rewrite? hrewrite) hchanged
    refine ⟨by rw [hrewrite]; rfl, ?_⟩
    rw [unbuilt_of_rewrite? hrewrite, decide_eq_true_eq]
    exact ⟨hchanged, hwith.2 hholds⟩

/-- What a request adds to the rewrites, by what becomes of its path. -/
theorem IsCompiled.total_rewrites_handle (hhook : hook.IsCompiled) (huri : request.uri.IsLegal) :
    Event.total .rewrites (hook.handle request).2 =
      (if hook.Replaces request then 1 else 0) + (if hook.Keeps request then 1 else 0) +
        (if hook.Abandons request then 1 else 0) := by
  rw [total_handle, if_congr (hhook.replaces_iff huri) rfl rfl]
  cases hrewrite : hook.rewrite? request with
  | none => simp [Keeps, Abandons, hrewrite]
  | some found =>
    cases hunbuilt : hook.unbuilt request with
    | true => simp [Keeps, Abandons, hrewrite, hunbuilt]
    | false =>
      -- The rewrite gives the path that came, or the index document makes it so, or neither.
      by_cases hown : found.path = request.uri.path
      · simp [Keeps, Abandons, hrewrite, hunbuilt, hown]
      · by_cases hcompleted : hook.completed found.path = request.uri.path
        · simp [Keeps, Abandons, hrewrite, hunbuilt, hcompleted]
        · simp [Keeps, Abandons, hrewrite, hunbuilt, hown, hcompleted]

def run (hook : RequestHook) (requests : List Request) : List Event :=
  requests.flatMap fun request => (hook.handle request).2

theorem IsCompiled.total_rewrites_run (hhook : hook.IsCompiled) {requests : List Request}
    (hlegal : ∀ request ∈ requests, request.uri.IsLegal) :
    Event.total .rewrites (hook.run requests) =
      requests.countP hook.Replaces + requests.countP hook.Keeps +
        requests.countP hook.Abandons := by
  induction requests with
  | nil => rfl
  | cons request requests ih =>
    have hstep := hhook.total_rewrites_handle (hlegal request List.mem_cons_self)
    have hrest := ih fun later hmem => hlegal later (List.mem_cons_of_mem _ hmem)
    rw [run, List.flatMap_cons, Event.total_append, hstep, ← run, hrest]
    simp only [List.countP_cons, decide_eq_true_eq]
    omega

/-- The rewrites of a run are the requests whose path a rule replaces, and with them those for which
the rule does nothing: what goes on is what would go on without it, or the new URI cannot be built.
The latter are the ones that are faults as well. -/
theorem rewrites_counted (hhook : hook.IsCompiled) {requests : List Request}
    (hlegal : ∀ request ∈ requests, request.uri.IsLegal) :
    Event.total .rewrites (hook.run requests) =
      requests.countP hook.Replaces + requests.countP hook.Keeps + requests.countP hook.Abandons ∧
    ∀ request ∈ requests,
      (hook.Replaces request → ∃ found, hook.rewrite? request = some found ∧
        found.path ≠ request.uri.path ∧ hook.completed found.path ≠ request.uri.path ∧
        (hook.handle request).1 = .forward { request with
          uri := { request.uri with path := hook.completed found.path }
          viewerPath := some request.uri.path }) ∧
      (hook.Keeps request → (hook.handle request).1 = .forward { request with
        uri := { request.uri with path := hook.completed request.uri.path }
        viewerPath := some request.uri.path }) ∧
      (hook.Abandons request → (hook.handle request).1 = .forward request) ∧
      (hook.Abandons request ↔ ∃ found, hook.rewrite? request = some found ∧
        hook.completed found.path ≠ request.uri.path ∧
        ¬ request.uri.CanHold (hook.completed found.path)) ∧
      (hook.Abandons request ↔ 0 < Event.total .rewrites (hook.handle request).2 ∧
        0 < Event.total (.handlerFaults .request) (hook.handle request).2) := by
  refine ⟨hhook.total_rewrites_run hlegal, fun request hmem => ?_⟩
  have huri := hlegal request hmem
  refine ⟨?_, hhook.outcome_of_keeps huri, ?_, hhook.abandons_iff huri, ?_⟩
  · intro hreplaces
    obtain ⟨found, hrewrite, hown, hchanged, hbuilt⟩ := (hhook.replaces_iff huri).1 hreplaces
    exact ⟨found, hrewrite, hown, hchanged, hhook.outcome_of_rewrite? huri hrewrite hbuilt⟩
  · exact fun habandons => outcome_of_unbuilt habandons.2
  · rw [total_handle, total_handle, Abandons]
    cases (hook.rewrite? request).isSome <;> cases hook.unbuilt request <;> simp

/-- Three rewrites that match, of which one replaces a path. The index document replaces another. -/
theorem rewrites_counted_three : ∃ (hook : RequestHook) (requests : List Request),
    RequestHook.compile { rewrites := [⟨"/a", "/x.html"⟩, ⟨"/k", "/k"⟩, ⟨"/b", "/b c"⟩] } =
      .ok hook ∧
    requests.map (·.uri.path) = ["/a", "/k", "/b"] ∧
    (∀ request ∈ requests, request.uri.IsLegal) ∧
    requests.countP hook.Replaces = 1 ∧ requests.countP hook.Keeps = 1 ∧
    requests.countP hook.Abandons = 1 ∧
    Event.total .rewrites (hook.run requests) = 3 ∧
    requests.map (fun request => (hook.handle request).1.path?) =
      [some "/x.html", some "/k/index.html", some "/b"] := by
  let rule (source destination : String) : Rule := {
    source
    destination
    expression := [.literal source.toList]
    captureOrder := []
    template := [.literal destination] }
  let hook : RequestHook :=
    { rewrites := [rule "/a" "/x.html", rule "/k" "/k", rule "/b" "/b c"] }
  let request (path : String) : Request :=
    ⟨⟨"GET", by decide⟩, ⟨none, none, path, none⟩, .empty, [], none⟩
  let requests := [request "/a", request "/k", request "/b"]
  have hcompile : RequestHook.compile
      { rewrites := [⟨"/a", "/x.html"⟩, ⟨"/k", "/k"⟩, ⟨"/b", "/b c"⟩] } = .ok hook := by
    decide +kernel
  have hlegal : ∀ request ∈ requests, request.uri.IsLegal := by
    intro r hr
    have hread : Uri.ofText? r.uri.path = some r.uri := by
      revert r
      decide +kernel
    exact Uri.isLegal_of_ofText? hread
  have hreplaces : requests.countP hook.Replaces = 1 := by decide +kernel
  have hkeeps : requests.countP hook.Keeps = 1 := by decide +kernel
  have habandons : requests.countP hook.Abandons = 1 := by decide +kernel
  obtain ⟨htotal, -⟩ := rewrites_counted (RequestHook.isCompiled_of_compile hcompile) hlegal
  rw [hreplaces, hkeeps, habandons] at htotal
  exact ⟨hook, requests, hcompile, rfl, hlegal, hreplaces, hkeeps, habandons, htotal,
    by decide +kernel⟩

/-- A request that goes on as it came is counted as a rewrite, and as a fault. -/
theorem counts_abandoned_rewrite : ∃ (config : Config) (hook : RequestHook) (request : Request),
    config.rewrites = [⟨"/a", "/b c"⟩] ∧ config.errors = [] ∧
    RequestHook.compile config = .ok hook ∧
    Uri.ofText? "/a" = some request.uri ∧ (hook.handle request).1 = .forward request ∧
    [request].countP hook.Replaces = 0 ∧ Event.total .rewrites (hook.run [request]) = 1 ∧
    Event.total (.handlerFaults .request) (hook.run [request]) = 1 := by
  let config : Config := { rewrites := [⟨"/a", "/b c"⟩] }
  let hook : RequestHook := {
    rewrites := [{
      source := "/a"
      destination := "/b c"
      expression := [.literal "/a".toList]
      captureOrder := []
      template := [.literal "/b c"] }] }
  let request : Request := ⟨⟨"GET", by decide⟩, ⟨none, none, "/a", none⟩, .empty, [], none⟩
  have hcompile : RequestHook.compile config = .ok hook := by decide +kernel
  have huri : Uri.ofText? "/a" = some request.uri := by decide +kernel
  exact ⟨config, hook, request, rfl, by decide +kernel, hcompile, huri, by decide +kernel,
    by decide +kernel, by decide +kernel, by decide +kernel⟩

end RequestHook

end EdgeRouting
