import EdgeRouting.Hook.Request
import EdgeRouting.Proofs.RoutedPath

/-!
# What the request hook does to a request

`RequestHook.Handled` lists the outcomes with the events of each. Everything about the hook is read
off this list, and with what is known of routed paths it follows that a request that goes on differs
in its path only.
-/

namespace EdgeRouting.RequestHook

def rewriteEvents (path : String) : Option Rule.Match → List Event
  | some found => [.notice (.rewriteMatched found.rule.source path found.path), .count .rewrites 1]
  | none => []

inductive Handled (hook : RequestHook) (request : Request) : RequestOutcome × List Event → Prop
  | redirected {found : Rule.Match} {host : String} {response : Response}
      (resolved : hook.resolve request.uri.path = .redirect found)
      (hostKnown : request.host? = some host)
      (built : Redirect.response? host found.path = some response) :
      Handled hook request (.respond response,
        [.notice (.redirectMatched found.rule.source request.uri.path found.path),
          .count .redirects 1])
  | hostUnknown {found : Rule.Match} (resolved : hook.resolve request.uri.path = .redirect found)
      (hostless : request.host? = none) :
      Handled hook request (passThrough request (.redirectWithoutHost request.uri.path))
  | locationIllegal {found : Rule.Match} {host : String}
      (resolved : hook.resolve request.uri.path = .redirect found)
      (hostKnown : request.host? = some host)
      (unbuilt : Redirect.response? host found.path = none) :
      Handled hook request (passThrough request (.redirectNotBuilt request.uri.path))
  | kept {rewrite : Option Rule.Match}
      (resolved : hook.resolve request.uri.path = .forward request.uri.path rewrite) :
      Handled hook request (.forward { request with viewerPath := some request.uri.path },
        rewriteEvents request.uri.path rewrite)
  | replaced {path : String} {rewrite : Option Rule.Match} {uri : Uri}
      (resolved : hook.resolve request.uri.path = .forward path rewrite)
      (changed : path ≠ request.uri.path) (built : request.uri.withPath? path = some uri) :
      Handled hook request (.forward { request with uri, viewerPath := some request.uri.path },
        rewriteEvents request.uri.path rewrite)
  | uriIllegal {path : String} {rewrite : Option Rule.Match}
      (resolved : hook.resolve request.uri.path = .forward path rewrite)
      (changed : path ≠ request.uri.path) (unbuilt : request.uri.withPath? path = none) :
      Handled hook request (.forward request,
        rewriteEvents request.uri.path rewrite ++
          (passThrough request (.uriNotRewritten request.uri.path path)).2)

theorem handled (hook : RequestHook) (request : Request) :
    Handled hook request (hook.handle request) := by
  rw [handle]
  cases hresolve : hook.resolve request.uri.path with
  | redirect found =>
    dsimp only [Resolution.notices, List.map_nil, List.nil_append]
    rw [redirect]
    cases hhost : request.host? with
    | none => exact .hostUnknown hresolve hhost
    | some host =>
      dsimp only
      cases hresponse : Redirect.response? host found.path with
      | none => exact .locationIllegal hresolve hhost hresponse
      | some response => exact .redirected hresolve hhost hresponse
  | forward path rewrite =>
    dsimp only
    have hnoted : ((Resolution.forward path rewrite).notices request.uri.path).map Event.notice ++
        (if rewrite.isSome then [.count .rewrites 1] else []) =
          rewriteEvents request.uri.path rewrite := by
      cases rewrite <;> rfl
    rw [hnoted, forward]
    by_cases hsame : path = request.uri.path
    · subst hsame
      rw [if_pos rfl, List.append_nil]
      exact .kept hresolve
    · rw [if_neg hsame]
      cases huri : request.uri.withPath? path with
      | none => exact .uriIllegal hresolve hsame huri
      | some uri =>
        dsimp only
        rw [List.append_nil]
        exact .replaced hresolve hsame huri

/-- A fault of the hook is counted. -/
def FailsClosed (hook : RequestHook) (request : Request) : Prop :=
  .count (.handlerFaults .request) 1 ∈ (hook.handle request).2

instance (hook : RequestHook) (request : Request) : Decidable (hook.FailsClosed request) :=
  inferInstanceAs (Decidable (_ ∈ _))

theorem fault_notMem_rewriteEvents (path : String) (rewrite : Option Rule.Match) :
    .count (.handlerFaults .request) 1 ∉ rewriteEvents path rewrite := by
  cases rewrite <;> simp [rewriteEvents]

variable {hook : RequestHook} {request forwarded : Request}

/-- A hook that fails leaves the request as it came. -/
theorem FailsClosed.outcome (h : hook.FailsClosed request) :
    (hook.handle request).1 = .forward request := by
  rw [FailsClosed] at h
  have hhandled := hook.handled request
  generalize hook.handle request = result at h hhandled
  cases hhandled with
  | redirected => simp at h
  | hostUnknown => rfl
  | locationIllegal => rfl
  | kept => exact absurd h (fault_notMem_rewriteEvents _ _)
  | replaced => exact absurd h (fault_notMem_rewriteEvents _ _)
  | uriIllegal => rfl

/-- A replaced path is read back as it was written, whatever stands in it. -/
theorem IsCompiled.eq_of_withPath? (hhook : hook.IsCompiled) (huri : request.uri.IsLegal)
    {path : String} {rewrite : Option Rule.Match} {uri : Uri}
    (hresolve : hook.resolve request.uri.path = .forward path rewrite)
    (hchanged : path ≠ request.uri.path) (hbuilt : request.uri.withPath? path = some uri) :
    uri = { request.uri with path } := by
  have hquestion := Uri.question_notMem_path huri.path
  have hfragment := Uri.fragment_notMem_path huri.path
  obtain hpath | hsame | rfl := hhook.isPath_or_complete hquestion hfragment hresolve
  · obtain ⟨hslash, hquestion, hfragment⟩ := hpath
    refine huri.eq_of_withPath? ?_ hquestion hfragment hbuilt
    rintro rfl
    cases hslash
  · exact absurd hsame hchanged
  · have hlegal := (IndexDocument.all_complete_iff request.uri.path).2 huri.path
    exact huri.eq_of_withPath? (IndexDocument.complete_ne_empty _) (Uri.question_notMem_path hlegal)
      (Uri.fragment_notMem_path hlegal) hbuilt

/-- A request that goes on with a viewer's path has that of this request, and nothing but the path
has changed, to the one that the rules give for it. The exception is a request that came with a
viewer's path already: where the hook fails, it goes on as it came. -/
theorem forwards_resolved_path (hhook : hook.IsCompiled) (huri : request.uri.IsLegal)
    (hforward : (hook.handle request).1 = .forward forwarded)
    (hnoted : forwarded.viewerPath.isSome = true) :
    (hook.FailsClosed request ∧ request.viewerPath.isSome = true ∧ forwarded = request) ∨
    ¬ hook.FailsClosed request ∧ forwarded.viewerPath = some request.uri.path ∧
      (∃ rewrite, hook.resolve request.uri.path = .forward forwarded.uri.path rewrite) ∧
      forwarded.uri.query = request.uri.query ∧ forwarded.uri.scheme = request.uri.scheme ∧
      forwarded.uri.authority = request.uri.authority ∧ forwarded.method = request.method ∧
      forwarded.headers = request.headers ∧ forwarded.body = request.body := by
  by_cases hfails : hook.FailsClosed request
  · have hsame := hfails.outcome.symm.trans hforward
    cases hsame
    exact .inl ⟨hfails, hnoted, rfl⟩
  refine .inr ⟨hfails, ?_⟩
  rw [FailsClosed] at hfails
  have hhandled := hook.handled request
  generalize hook.handle request = result at hforward hhandled hfails
  cases hhandled with
  | redirected => cases hforward
  | hostUnknown | locationIllegal | uriIllegal => exact absurd (by simp [passThrough]) hfails
  | kept hresolve =>
    cases hforward
    exact ⟨rfl, ⟨_, hresolve⟩, rfl, rfl, rfl, rfl, rfl, rfl⟩
  | replaced hresolve hchanged hbuilt =>
    cases hforward
    cases hhook.eq_of_withPath? huri hresolve hchanged hbuilt
    exact ⟨rfl, ⟨_, hresolve⟩, rfl, rfl, rfl, rfl, rfl, rfl⟩

/-- An empty query is kept as it is, and the index document of a rewritten path comes in front of
it. -/
theorem forwards_empty_query : ∃ (hook : RequestHook) (request forwarded : Request),
    RequestHook.compile { rewrites := [⟨"/blog/*", "/posts/*"⟩] } = .ok hook ∧
    Uri.ofText? "http://example.com/blog/a:b*c/?" = some request.uri ∧
    (hook.handle request).1 = .forward forwarded ∧
    forwarded.uri.text = "http://example.com/posts/a:b*c/index.html?" ∧
    request.uri.query = some "" ∧ forwarded.viewerPath = some request.uri.path ∧
    (∃ rewrite, hook.resolve request.uri.path = .forward forwarded.uri.path rewrite) ∧
    forwarded.uri.query = request.uri.query ∧ forwarded.uri.scheme = request.uri.scheme ∧
    forwarded.uri.authority = request.uri.authority ∧ forwarded.method = request.method ∧
    forwarded.headers = request.headers ∧ forwarded.body = request.body := by
  let hook : RequestHook := {
    rewrites := [{
      source := "/blog/*"
      destination := "/posts/*"
      expression := [.literal "/blog/".toList, .wildcard]
      captureOrder := [.wildcard 0]
      template := [.literal "/posts/", .capture 0] }] }
  let uri (path : String) : Uri := ⟨some "http", some ⟨"example.com", by decide⟩, path, some ""⟩
  let request (path : String) (viewerPath : Option String) : Request :=
    ⟨⟨"GET", by decide⟩, uri path, .empty, [1, 2], viewerPath⟩
  have hcompile : RequestHook.compile { rewrites := [⟨"/blog/*", "/posts/*"⟩] } = .ok hook := by
    decide +kernel
  have huri : Uri.ofText? "http://example.com/blog/a:b*c/?" = some (uri "/blog/a:b*c/") := by
    decide +kernel
  have hforward : (hook.handle (request "/blog/a:b*c/" none)).1 =
      .forward (request "/posts/a:b*c/index.html" (some "/blog/a:b*c/")) := by
    decide +kernel
  have hlegal := Uri.isLegal_of_ofText? huri
  obtain ⟨-, hcame, -⟩ | ⟨-, hresolved⟩ :=
    forwards_resolved_path (RequestHook.isCompiled_of_compile hcompile) hlegal hforward rfl
  · cases hcame
  · exact ⟨hook, _, _, hcompile, huri, hforward, by decide +kernel, rfl, hresolved⟩

/-- A request that went through the hook and comes again. The rules lead to a path that no URI can
hold, so the request goes on as it came, with the path that was noted the first time. -/
theorem forwards_earlier_path : ∃ (hook : RequestHook) (request again forwarded : Request),
    RequestHook.compile { rewrites := [⟨"/a", "/b.html"⟩, ⟨"/b.html", "/x y"⟩] } = .ok hook ∧
    Uri.ofText? "/a" = some request.uri ∧ (hook.handle request).1 = .forward again ∧
    Uri.ofText? "/b.html" = some again.uri ∧ (hook.handle again).1 = .forward forwarded ∧
    forwarded.viewerPath.isSome = true ∧ forwarded.viewerPath ≠ some again.uri.path ∧
    ∀ rewrite, hook.resolve again.uri.path ≠ .forward forwarded.uri.path rewrite := by
  let rule (source destination : String) : Rule := {
    source
    destination
    expression := [.literal source.toList]
    captureOrder := []
    template := [.literal destination] }
  let hook : RequestHook := { rewrites := [rule "/a" "/b.html", rule "/b.html" "/x y"] }
  let request (path : String) (viewerPath : Option String) : Request :=
    ⟨⟨"GET", by decide⟩, ⟨none, none, path, none⟩, .empty, [], viewerPath⟩
  have hresolve : hook.resolve "/b.html" =
      .forward "/x y/index.html" (some ⟨1, rule "/b.html" "/x y", "/x y"⟩) := by
    decide +kernel
  refine ⟨hook, request "/a" none, request "/b.html" (some "/a"), request "/b.html" (some "/a"),
    by decide +kernel, by decide +kernel, by decide +kernel, by decide +kernel,
    by decide +kernel, rfl, by decide, ?_⟩
  intro rewrite hsame
  have hpath := (Resolution.forward.inj (hresolve.symm.trans hsame)).1
  exact absurd hpath (by decide)

end EdgeRouting.RequestHook
