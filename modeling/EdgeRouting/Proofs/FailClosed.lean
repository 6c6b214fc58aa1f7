import EdgeRouting.Proofs.ConfigErrors
import EdgeRouting.Proofs.HeaderText
import EdgeRouting.Proofs.PassedThrough

/-!
# When the request hook fails

A configuration without errors compiles, but its destinations are checked for marks only and not for
the characters of a URI or a header. Those characters decide: for a request that has a host and room
for its path, the hook fails exactly where the rule that matches has a destination that cannot stand
where it is put.
-/

namespace EdgeRouting

open Accepted

theorem RequestHook.exists_compile {config : Config} (h : config.errors = []) :
    ∃ hook, RequestHook.compile config = .ok hook := by
  obtain ⟨build, hbuild⟩ := Config.exists_build_of_errors h
  obtain ⟨hook, hhook, -⟩ := bind_eq_ok_iff.1 hbuild
  exact ⟨hook, hhook⟩

theorem isPathChar_of_isNameChar {c : Char} (h : Pattern.isNameChar c = true) :
    isPathChar c = true := by
  have hlt : c.toNat < 128 := by
    delta Pattern.isNameChar Char.isAlphanum Char.isAlpha Char.isUpper Char.isLower
      Char.isDigit at h
    simp only [Bool.or_eq_true, Bool.and_eq_true, decide_eq_true_eq, beq_iff_eq,
      UInt32.le_iff_toNat_le, ge_iff_le] at h
    have hc : c.toNat = c.val.toNat := rfl
    have hupper : 'Z'.val.toNat = 90 := rfl
    have hlower : 'z'.val.toNat = 122 := rfl
    have hdigit : '9'.val.toNat = 57 := rfl
    rcases h with h | rfl
    · omega
    · decide
  have hsmall : ∀ n < 128, Pattern.isNameChar (Char.ofNat n) = true →
      isPathChar (Char.ofNat n) = true := by decide
  rw [← Char.ofNat_toNat c] at h ⊢
  exact hsmall c.toNat hlt h

/-- A location is a legal value if what it is put together from is. -/
theorem Redirect.isSome_response?_iff (host path : String) :
    (Redirect.response? host path).isSome = true ↔
      host.toList.all isHeaderChar = true ∧ path.toList.all isHeaderChar = true := by
  have hvalue : (Redirect.response? host path).isSome =
      (HeaderValue.ofText? (Redirect.location host path)).isSome := by
    rw [Redirect.response?]
    cases HeaderValue.ofText? (Redirect.location host path) <;> rfl
  have hscheme : "https://".toList.all isHeaderChar = true := by decide +kernel
  rw [hvalue, HeaderValue.isSome_ofText?, Redirect.location, String.toList_append,
    String.toList_append, List.all_append, List.all_append, hscheme, Bool.true_and,
    Bool.and_eq_true]

namespace Rule.IsCompiled

variable {rule : Rule} {path result : String}

theorem all_isPathChar_iff (h : rule.IsCompiled) (hpath : path.toList.all isPathChar = true)
    (hroute : rule.route? path = some result) :
    result.toList.all isPathChar = true ↔ rule.destination.toList.all isPathChar = true :=
  h.all_route?_iff (by decide) (by decide) (fun _ => isPathChar_of_isNameChar) hpath hroute

theorem isSome_response?_iff (h : rule.IsCompiled) (hpath : path.toList.all isPathChar = true)
    (hroute : rule.route? path = some result) {host : String}
    (hhost : host.toList.all isHeaderChar = true) :
    (Redirect.response? host result).isSome = true ↔
      (HeaderValue.ofText? rule.destination).isSome = true := by
  have hheader : path.toList.all isHeaderChar = true :=
    List.all_eq_true.2 fun c hc => isHeaderChar_of_isPathChar (List.all_eq_true.1 hpath c hc)
  have hname (c : Char) (hc : Pattern.isNameChar c = true) : isHeaderChar c = true :=
    isHeaderChar_of_isPathChar (isPathChar_of_isNameChar hc)
  rw [Redirect.isSome_response?_iff, and_iff_right hhost, HeaderValue.isSome_ofText?]
  exact h.all_route?_iff (by decide) (by decide) hname hheader hroute

end Rule.IsCompiled

/-- The rule that decided has a destination that cannot stand where its path is put. -/
def Resolution.DestinationIllegal : Resolution → Prop
  | .redirect found => HeaderValue.ofText? found.rule.destination = none
  | .forward _ rewrite => ∃ found ∈ rewrite, found.rule.destination.toList.all isPathChar = false

namespace Uri.IsLegal

variable {uri : Uri} {path : String}

theorem isPath (huri : uri.IsLegal) (habsolute : uri.path.toList.head? = some '/') :
    Pattern.IsPath uri.path.toList :=
  ⟨habsolute, Uri.question_notMem_path huri.path, Uri.fragment_notMem_path huri.path⟩

theorem canHold_iff (huri : uri.IsLegal) (habsolute : uri.path.toList.head? = some '/')
    (hpath : Pattern.IsPath path.toList)
    (hfits : (path ++ Uri.queryText uri.query).utf8ByteSize ≤ uriLimit) :
    uri.CanHold path ↔ path.toList.all isPathChar = true := by
  have hne : uri.path ≠ "" := by
    intro hempty
    rw [hempty] at habsolute
    cases habsolute
  refine ⟨fun h => h.legal.path,
    fun hlegal => ⟨⟨hlegal, huri.query, fun hauthority hscheme => ?_⟩, hpath.1, hfits⟩⟩
  exact absurd (huri.alone hauthority hscheme) hne

theorem isSome_withPath?_iff (huri : uri.IsLegal) (habsolute : uri.path.toList.head? = some '/')
    (hpath : Pattern.IsPath path.toList)
    (hfits : (path ++ Uri.queryText uri.query).utf8ByteSize ≤ uriLimit) :
    (uri.withPath? path).isSome = true ↔ path.toList.all isPathChar = true := by
  rw [Option.isSome_iff_ne_none, Ne, huri.withPath?_eq_none_iff_of_isPath hpath, not_not]
  exact huri.canHold_iff habsolute hpath hfits

end Uri.IsLegal

namespace RequestHook

/-- A request for an absolute path whose first host header can be read, and whose path fits in front
of the query where it goes on. -/
structure IsRegular (hook : RequestHook) (request : Request) : Prop where
  legal : request.uri.IsLegal
  absolute : request.uri.path.toList.head? = some '/'
  host : ∃ value host, request.headers.get? .host = some value ∧
    value.readable? = some host ∧ host ≠ ""
  fits : ∀ path rewrite, hook.resolve request.uri.path = .forward path rewrite →
    (path ++ Uri.queryText request.uri.query).utf8ByteSize ≤ uriLimit

variable {hook : RequestHook} {request : Request} {path : String}

/-- Where the path is known that goes on, only that path has to fit. -/
theorem IsRegular.of_resolve {rewrite : Option Rule.Match} (hlegal : request.uri.IsLegal)
    (habsolute : request.uri.path.toList.head? = some '/')
    (hhost : ∃ value host, request.headers.get? .host = some value ∧
      value.readable? = some host ∧ host ≠ "")
    (hresolve : hook.resolve request.uri.path = .forward path rewrite)
    (hfits : (path ++ Uri.queryText request.uri.query).utf8ByteSize ≤ uriLimit) :
    hook.IsRegular request := by
  refine ⟨hlegal, habsolute, hhost, fun other rewrite hother => ?_⟩
  rw [hresolve] at hother
  cases hother
  exact hfits

theorem IsRegular.exists_host (h : hook.IsRegular request) :
    ∃ host, request.host? = some host ∧ host.toList.all isHeaderChar = true := by
  obtain ⟨value, host, hvalue, hreadable, hne⟩ := h.host
  refine ⟨host, ?_, HeaderValue.all_readable? hreadable⟩
  simp [Request.host?, hvalue, hreadable, hne]

theorem IsCompiled.isPath_of_resolve (hhook : hook.IsCompiled) {uri : Uri} (huri : uri.IsLegal)
    (habsolute : uri.path.toList.head? = some '/') {rewrite : Option Rule.Match}
    (hresolve : hook.resolve uri.path = .forward path rewrite) : Pattern.IsPath path.toList := by
  have hpath := huri.isPath habsolute
  obtain h | rfl | rfl := hhook.isPath_or_complete hpath.2.1 hpath.2.2 hresolve
  · exact h
  · exact hpath
  · exact IndexDocument.isPath_complete hpath

theorem IsCompiled.all_resolve_iff (hhook : hook.IsCompiled) {viewerPath : String}
    (hlegal : viewerPath.toList.all isPathChar = true) {rewrite : Option Rule.Match}
    (hresolve : hook.resolve viewerPath = .forward path rewrite) :
    path.toList.all isPathChar = true ↔ ¬ (Resolution.forward path rewrite).DestinationIllegal := by
  obtain ⟨-, hrewrite, rfl⟩ := resolve_eq_forward_iff.1 hresolve
  rw [hook.all_completed_iff]
  cases rewrite with
  | none => simpa [Resolution.DestinationIllegal, routed] using hlegal
  | some found =>
    obtain ⟨hmem, hroute⟩ := Rule.of_firstMatch? hrewrite
    rw [routed, (hhook.rewrites _ hmem).all_isPathChar_iff hlegal hroute]
    simp [Resolution.DestinationIllegal]

/-- For a regular request the hook fails where a destination is illegal, and nowhere else. -/
theorem IsCompiled.failsClosed_iff (hhook : hook.IsCompiled) (hregular : hook.IsRegular request) :
    hook.FailsClosed request ↔ (hook.resolve request.uri.path).DestinationIllegal := by
  obtain ⟨host, hhost, hheader⟩ := hregular.exists_host
  have hlegal := hregular.legal.path
  have hlocation {found : Rule.Match} (hresolve : hook.resolve request.uri.path = .redirect found) :
      HeaderValue.ofText? (Redirect.location host found.path) = none ↔
        (Resolution.redirect found).DestinationIllegal := by
    obtain ⟨hmem, hroute⟩ := Rule.of_firstMatch? (resolve_eq_redirect_iff.1 hresolve)
    have hsome := (hhook.redirects _ hmem).isSome_response?_iff hlegal hroute hheader
    rw [← Redirect.response?_eq_none_iff, Resolution.DestinationIllegal]
    simpa using not_congr hsome
  have hheld {path : String} {rewrite : Option Rule.Match}
      (hresolve : hook.resolve request.uri.path = .forward path rewrite) :
      request.uri.CanHold path ↔ ¬ (Resolution.forward path rewrite).DestinationIllegal := by
    have hpath := hhook.isPath_of_resolve hregular.legal hregular.absolute hresolve
    rw [hregular.legal.canHold_iff hregular.absolute hpath (hregular.fits path rewrite hresolve)]
    exact hhook.all_resolve_iff hlegal hresolve
  rw [hhook.failsClosed_iff_unbuildable hregular.legal]
  constructor
  · intro hunbuildable
    cases hunbuildable with
    | hostless hresolve hhostless =>
      rw [request.host?_eq_none_iff.2 hhostless] at hhost
      cases hhost
    | locationIllegal hresolve hknown hillegal =>
      cases hhost.symm.trans hknown
      rw [hresolve]
      exact (hlocation hresolve).1 hillegal
    | uriIllegal hresolve hchanged hillegal =>
      rw [hresolve]
      exact not_not.1 (mt (hheld hresolve).2 hillegal)
  · intro hillegal
    cases hresolve : hook.resolve request.uri.path with
    | redirect found =>
      rw [hresolve] at hillegal
      exact .locationIllegal hresolve hhost ((hlocation hresolve).2 hillegal)
    | forward path rewrite =>
      rw [hresolve] at hillegal
      have hunheld := mt (hheld hresolve).1 (not_not.2 hillegal)
      refine .uriIllegal hresolve ?_ hunheld
      -- The path that came is made of legal characters, so it is not the one that cannot be held.
      rintro rfl
      exact (hhook.all_resolve_iff hlegal hresolve).1 hlegal hillegal

end RequestHook

/-- What a configuration without errors still leaves to its destinations: whether a regular request
fails, whether a rewritten path can be put into a URI, and whether a redirect can be written into a
header. -/
theorem Config.destinations_decide {config : Config} (hconfig : config.errors = []) :
    ∃ hook, RequestHook.compile config = .ok hook ∧
      (∀ request, hook.IsRegular request →
        (hook.FailsClosed request ↔ (hook.resolve request.uri.path).DestinationIllegal)) ∧
      ∀ uri : Uri, uri.IsLegal → uri.path.toList.head? = some '/' →
        (∀ rule ∈ hook.rewrites, ∀ result, rule.route? uri.path = some result →
          ∀ path ∈ [result, IndexDocument.complete result],
            (path ++ Uri.queryText uri.query).utf8ByteSize ≤ uriLimit →
              ((uri.withPath? path).isSome = true ↔
                rule.destination.toList.all isPathChar = true)) ∧
        ((IndexDocument.complete uri.path ++ Uri.queryText uri.query).utf8ByteSize ≤ uriLimit →
          (uri.withPath? (IndexDocument.complete uri.path)).isSome = true) ∧
        ∀ rule ∈ hook.redirects, ∀ result, rule.route? uri.path = some result →
          ∀ value host, HeaderValue.readable? value = some host →
            ((Redirect.response? host result).isSome = true ↔
              (HeaderValue.ofText? rule.destination).isSome = true) := by
  obtain ⟨hook, hcompile⟩ := RequestHook.exists_compile hconfig
  have hhook := RequestHook.isCompiled_of_compile hcompile
  refine ⟨hook, hcompile, fun request => hhook.failsClosed_iff,
    fun uri huri habsolute => ⟨?_, ?_, ?_⟩⟩
  · intro rule hrule result hroute path hpath hfits
    have hisPath := huri.isPath habsolute
    have hresult := (hhook.rewrites rule hrule).isPath_route? hisPath.2.1 hisPath.2.2 hroute
    rw [← (hhook.rewrites rule hrule).all_isPathChar_iff huri.path hroute]
    rw [List.mem_cons, List.mem_singleton] at hpath
    obtain rfl | rfl := hpath
    · exact huri.isSome_withPath?_iff habsolute hresult hfits
    · rw [huri.isSome_withPath?_iff habsolute (IndexDocument.isPath_complete hresult) hfits]
      exact IndexDocument.all_complete_iff result
  · intro hfits
    rw [huri.isSome_withPath?_iff habsolute
      (IndexDocument.isPath_complete (huri.isPath habsolute)) hfits]
    exact (IndexDocument.all_complete_iff uri.path).2 huri.path
  · intro rule hrule result hroute value host hreadable
    exact (hhook.redirects rule hrule).isSome_response?_iff huri.path hroute
      (HeaderValue.all_readable? hreadable)

/-- A rule whose destination is a path that a URI can hold. -/
theorem Config.rewrite_does_not_fail : ∃ (config : Config) (hook : RequestHook) (request : Request),
    config.rewrites = [⟨"/docs/:page", "/pages/:page"⟩] ∧ config.errors = [] ∧
    RequestHook.compile config = .ok hook ∧ hook.IsRegular request ∧
    request.uri.text = "/docs/intro?v=2" ∧
    (hook.resolve request.uri.path).notices request.uri.path =
      [.rewriteMatched "/docs/:page" "/docs/intro" "/pages/intro"] ∧
    ¬ hook.FailsClosed request := by
  let config : Config := { rewrites := [⟨"/docs/:page", "/pages/:page"⟩] }
  let rule : Rule := {
    source := "/docs/:page"
    destination := "/pages/:page"
    expression := [.literal "/docs/".toList, .parameter]
    captureOrder := [.parameter "page"]
    template := [.literal "/pages/", .capture 0] }
  let hook : RequestHook := { rewrites := [rule] }
  let request : Request := {
    method := ⟨"GET", by decide⟩
    uri := ⟨none, none, "/docs/intro", some "v=2"⟩
    headers := HeaderMap.empty.append .host ⟨Utf8.encode "example.com", by decide +kernel⟩
    body := [] }
  have hconfig : config.errors = [] := by decide +kernel
  have hcompile : RequestHook.compile config = .ok hook := by decide +kernel
  have hresolve : hook.resolve request.uri.path =
      .forward "/pages/intro/index.html" (some ⟨0, rule, "/pages/intro"⟩) := by
    decide +kernel
  have huri : Uri.ofText? "/docs/intro?v=2" = some request.uri := by decide +kernel
  have hregular : hook.IsRegular request :=
    .of_resolve (Uri.isLegal_of_ofText? huri) (by decide +kernel)
      ⟨_, "example.com", rfl, by decide +kernel, by decide⟩ hresolve (by decide +kernel)
  obtain ⟨compiled, hcompiled, hfails, -⟩ := Config.destinations_decide hconfig
  cases hcompile.symm.trans hcompiled
  refine ⟨config, hook, request, rfl, hconfig, hcompile, hregular, by decide +kernel,
    by decide +kernel, ?_⟩
  rw [hfails request hregular, hresolve]
  rintro ⟨found, hfound, hillegal⟩
  cases hfound
  exact absurd hillegal (by decide +kernel)

/-- A blank passes every check of a configuration, and no URI can hold it. -/
theorem Config.blank_destination_fails :
    ∃ (config : Config) (hook : RequestHook) (request : Request),
    config.rewrites = [⟨"/a", "/b c"⟩] ∧ config.errors = [] ∧
    RequestHook.compile config = .ok hook ∧
    hook.IsRegular request ∧ request.uri.text = "/a" ∧ hook.FailsClosed request := by
  let config : Config := { rewrites := [⟨"/a", "/b c"⟩] }
  let rule : Rule := {
    source := "/a"
    destination := "/b c"
    expression := [.literal "/a".toList]
    captureOrder := []
    template := [.literal "/b c"] }
  let hook : RequestHook := { rewrites := [rule] }
  let request : Request := {
    method := ⟨"GET", by decide⟩
    uri := ⟨none, none, "/a", none⟩
    headers := HeaderMap.empty.append .host ⟨Utf8.encode "example.com", by decide +kernel⟩
    body := [] }
  have hconfig : config.errors = [] := by decide +kernel
  have hcompile : RequestHook.compile config = .ok hook := by decide +kernel
  have hresolve : hook.resolve request.uri.path =
      .forward "/b c/index.html" (some ⟨0, rule, "/b c"⟩) := by
    decide +kernel
  have huri : Uri.ofText? "/a" = some request.uri := by decide +kernel
  have hregular : hook.IsRegular request :=
    .of_resolve (Uri.isLegal_of_ofText? huri) (by decide +kernel)
      ⟨_, "example.com", rfl, by decide +kernel, by decide⟩ hresolve (by decide +kernel)
  exact ⟨config, hook, request, rfl, hconfig, hcompile, hregular, by decide +kernel,
    by decide +kernel⟩

end EdgeRouting
