import EdgeRouting.Proofs.RequestHandling

/-!
# Requests that go on as they came

A redirect needs a host and a legal location, and a path that is replaced needs a URI that can hold
the new one. Where what is needed cannot be had, a request goes on as it came, and these are the
only requests that go on without a note of the path the viewer asked for.
-/

namespace EdgeRouting

/-- No host is known: the first host header says nothing, or there is none that can be read and no
authority either. -/
def Request.IsHostless (request : Request) : Prop :=
  match (request.headers.get? .host).bind HeaderValue.readable? with
  | some host => host = ""
  | none => request.uri.authority = none

theorem Request.host?_eq_none_iff (request : Request) :
    request.host? = none ↔ request.IsHostless := by
  rw [Request.host?, Request.IsHostless]
  cases (request.headers.get? .host).bind HeaderValue.readable? with
  | some host => simp
  | none =>
    cases request.uri.authority with
    | none => simp
    | some authority => simp [authority.text_ne_empty]

theorem Redirect.response?_eq_none_iff {host path : String} :
    Redirect.response? host path = none ↔
      HeaderValue.ofText? (Redirect.location host path) = none := by
  rw [Redirect.response?]
  cases HeaderValue.ofText? (Redirect.location host path) <;> simp

theorem Uri.IsLegal.withPath?_eq_none_iff_of_isPath {uri : Uri} {path : String} (huri : uri.IsLegal)
    (hpath : Pattern.IsPath path.toList) : uri.withPath? path = none ↔ ¬ uri.CanHold path := by
  obtain ⟨hslash, hquestion, hfragment⟩ := hpath
  refine huri.withPath?_eq_none_iff ?_ ?_ hquestion hfragment
  · rintro rfl
    cases hslash
  · rintro rfl
    cases hslash

namespace RequestHook

variable {hook : RequestHook} {request : Request}

/-- A path that takes the place of another is never an asterisk and has no marks, so whether it is
taken is a matter of what the URI can hold. -/
theorem IsCompiled.withPath?_eq_none_iff (hhook : hook.IsCompiled) (huri : request.uri.IsLegal)
    {path : String} {rewrite : Option Rule.Match}
    (hresolve : hook.resolve request.uri.path = .forward path rewrite)
    (hchanged : path ≠ request.uri.path) :
    request.uri.withPath? path = none ↔ ¬ request.uri.CanHold path := by
  have hquestion := Uri.question_notMem_path huri.path
  have hfragment := Uri.fragment_notMem_path huri.path
  obtain hpath | hsame | rfl := hhook.isPath_or_complete hquestion hfragment hresolve
  · exact huri.withPath?_eq_none_iff_of_isPath hpath
  · exact absurd hsame hchanged
  -- The path that came may be empty or an asterisk, but completed it has a dot.
  · have hlegal := (IndexDocument.all_complete_iff request.uri.path).2 huri.path
    refine huri.withPath?_eq_none_iff (IndexDocument.complete_ne_empty _) ?_
      (Uri.question_notMem_path hlegal)
      (Uri.fragment_notMem_path hlegal)
    intro hasterisk
    have hdot := IndexDocument.dot_mem_complete request.uri.path
    rw [hasterisk] at hdot
    exact absurd hdot (by decide)

inductive Unbuildable (hook : RequestHook) (request : Request) : Prop
  | hostless {found : Rule.Match} (resolved : hook.resolve request.uri.path = .redirect found)
      (hostless : request.IsHostless)
  | locationIllegal {found : Rule.Match} {host : String}
      (resolved : hook.resolve request.uri.path = .redirect found)
      (hostKnown : request.host? = some host)
      (illegal : HeaderValue.ofText? (Redirect.location host found.path) = none)
  | uriIllegal {path : String} {rewrite : Option Rule.Match}
      (resolved : hook.resolve request.uri.path = .forward path rewrite)
      (changed : path ≠ request.uri.path) (illegal : ¬ request.uri.CanHold path)

/-- The hook fails where something cannot be built, and nowhere else. -/
theorem IsCompiled.failsClosed_iff_unbuildable (hhook : hook.IsCompiled)
    (huri : request.uri.IsLegal) : hook.FailsClosed request ↔ hook.Unbuildable request := by
  constructor
  · intro hfails
    rw [FailsClosed] at hfails
    have hhandled := hook.handled request
    generalize hook.handle request = result at hfails hhandled
    cases hhandled with
    | redirected => simp at hfails
    | hostUnknown hresolve hhostless =>
      exact .hostless hresolve (request.host?_eq_none_iff.1 hhostless)
    | locationIllegal hresolve hknown hunbuilt =>
      exact .locationIllegal hresolve hknown (Redirect.response?_eq_none_iff.1 hunbuilt)
    | kept => exact absurd hfails (fault_notMem_rewriteEvents _ _)
    | replaced => exact absurd hfails (fault_notMem_rewriteEvents _ _)
    | uriIllegal hresolve hchanged hunbuilt =>
      exact .uriIllegal hresolve hchanged
        ((hhook.withPath?_eq_none_iff huri hresolve hchanged).1 hunbuilt)
  · intro hunbuildable
    cases hunbuildable with
    | hostless hresolve hhostless =>
      have hnone := request.host?_eq_none_iff.2 hhostless
      simp [FailsClosed, handle, hresolve, redirect, hnone, passThrough]
    | locationIllegal hresolve hknown hillegal =>
      have hnone := Redirect.response?_eq_none_iff.2 hillegal
      simp [FailsClosed, handle, hresolve, redirect, hknown, hnone, passThrough]
    | uriIllegal hresolve hchanged hillegal =>
      have hnone := (hhook.withPath?_eq_none_iff huri hresolve hchanged).2 hillegal
      simp [FailsClosed, handle, hresolve, forward, hchanged, hnone, passThrough]

/-- A request without a note goes on without one exactly where the hook fails. -/
theorem failsClosed_iff_unnoted (hfresh : request.viewerPath = none) :
    hook.FailsClosed request ↔
      ∃ forwarded, (hook.handle request).1 = .forward forwarded ∧ forwarded.viewerPath = none := by
  constructor
  · intro hfails
    exact ⟨request, hfails.outcome, hfresh⟩
  · rintro ⟨forwarded, hforward, hunnoted⟩
    rw [FailsClosed]
    have hhandled := hook.handled request
    generalize hook.handle request = result at hforward hhandled
    cases hhandled with
    | redirected => cases hforward
    | hostUnknown => simp [passThrough]
    | locationIllegal => simp [passThrough]
    | kept =>
      cases hforward
      cases hunnoted
    | replaced =>
      cases hforward
      cases hunnoted
    | uriIllegal => simp [passThrough]

/-- A request goes on without a note of the viewer's path exactly where its redirect or its new URI
cannot be built, and then it goes on as it came, whether a rewrite has matched or not. -/
theorem unnoted_iff_unbuildable (hhook : hook.IsCompiled) (huri : request.uri.IsLegal)
    (hfresh : request.viewerPath = none) :
    ((∃ forwarded, (hook.handle request).1 = .forward forwarded ∧ forwarded.viewerPath = none) ↔
      hook.Unbuildable request) ∧
    (hook.Unbuildable request → (hook.handle request).1 = .forward request) := by
  rw [← failsClosed_iff_unnoted hfresh]
  have hfails := hhook.failsClosed_iff_unbuildable huri
  exact ⟨hfails, fun hunbuildable => (hfails.2 hunbuildable).outcome⟩

/-- A path with a blank, after a rewrite has matched, and an authority alone, which has no room for
an index document. -/
theorem passes_blank_path : ∃ (hook : RequestHook) (request alone : Request),
    RequestHook.compile { rewrites := [⟨"/a/*", "/b c/*"⟩] } = .ok hook ∧
    Uri.ofText? "/a/x?v=1" = some request.uri ∧ Uri.ofText? "example.com:443" = some alone.uri ∧
    (∃ path found, hook.resolve request.uri.path = .forward path (some found)) ∧
    hook.Unbuildable request ∧ hook.Unbuildable alone ∧
    (hook.handle request).1 = .forward request ∧ (hook.handle alone).1 = .forward alone ∧
    request.viewerPath = none ∧ alone.viewerPath = none := by
  let rule : Rule := {
    source := "/a/*"
    destination := "/b c/*"
    expression := [.literal "/a/".toList, .wildcard]
    captureOrder := [.wildcard 0]
    template := [.literal "/b c/", .capture 0] }
  let hook : RequestHook := { rewrites := [rule] }
  let request (uri : Uri) : Request := ⟨⟨"GET", by decide⟩, uri, .empty, [1, 2], none⟩
  let uri : Uri := ⟨none, none, "/a/x", some "v=1"⟩
  let alone : Uri := ⟨none, some ⟨"example.com:443", by decide⟩, "", none⟩
  have hcompile : RequestHook.compile { rewrites := [⟨"/a/*", "/b c/*"⟩] } = .ok hook := by
    decide +kernel
  have huri : Uri.ofText? "/a/x?v=1" = some uri := by decide +kernel
  have halone : Uri.ofText? "example.com:443" = some alone := by decide +kernel
  have hresolve : hook.resolve uri.path =
      .forward "/b c/x/index.html" (some ⟨0, rule, "/b c/x"⟩) := by decide +kernel
  have hresolveAlone : hook.resolve alone.path = .forward "/index.html" none := by decide +kernel
  have hunbuildable : hook.Unbuildable (request uri) :=
    .uriIllegal hresolve (by decide) fun h => absurd h.legal.path (by decide)
  have hunbuildableAlone : hook.Unbuildable (request alone) :=
    .uriIllegal hresolveAlone (by decide) fun h => absurd (h.legal.alone rfl rfl) (by decide)
  have hhook := RequestHook.isCompiled_of_compile hcompile
  exact ⟨hook, request uri, request alone, hcompile, huri, halone, ⟨_, _, hresolve⟩, hunbuildable,
    hunbuildableAlone,
    (unnoted_iff_unbuildable hhook (Uri.isLegal_of_ofText? huri) rfl).2 hunbuildable,
    (unnoted_iff_unbuildable hhook (Uri.isLegal_of_ofText? halone) rfl).2 hunbuildableAlone,
    rfl, rfl⟩

end RequestHook

end EdgeRouting
