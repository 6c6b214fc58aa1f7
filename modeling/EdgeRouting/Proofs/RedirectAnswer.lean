import EdgeRouting.Proofs.HeaderText
import EdgeRouting.Proofs.HookCounts

/-!
# Where a redirect leads

A redirect is answered with a location on the host that the viewer asked. The path of the location
begins with a slash that the rule brings along, so what a viewer writes in a path stays behind the
host.
-/

namespace EdgeRouting

def Rule.IsFirst (rules : List Rule) (path : String) (rule : Rule) (target : String) : Prop :=
  ∃ before after, rules = before ++ rule :: after ∧
  (∀ earlier ∈ before, earlier.isMatch path = false) ∧
    rule.route? path = some target

theorem Rule.isFirst_iff {rules : List Rule} {path : String} {rule : Rule} {target : String} :
    Rule.IsFirst rules path rule target ↔
      ∃ index, Rule.firstMatch? rules path = some ⟨index, rule, target⟩ := by
  unfold Rule.IsFirst Rule.firstMatch?
  constructor
  · rintro ⟨before, after, hrules, hbefore, hroute⟩
    exact ⟨0 + before.length,
      Rule.firstMatchFrom?_eq_some_iff.2 ⟨before, after, hrules, rfl, hbefore, hroute⟩⟩
  · rintro ⟨index, hfound⟩
    obtain ⟨before, after, hrules, -, hbefore, hroute⟩ := Rule.firstMatchFrom?_eq_some_iff.1 hfound
    exact ⟨before, after, hrules, hbefore, hroute⟩

/-- The host a viewer asked, which is not empty: the first host header if it can be read, else the
authority. -/
inductive Request.KnownHost (request : Request) : String → Prop
  | header {value : HeaderValue} {host : String} (hfirst : request.headers.get? .host = some value)
      (hread : value.readable? = some host) (hne : host ≠ "") : KnownHost request host
  | authority {authority : Authority}
      (hunread : ∀ value ∈ request.headers.get? .host, value.readable? = none)
      (hauthority : request.uri.authority = some authority) : KnownHost request authority.text

theorem Request.knownHost_iff {request : Request} {host : String} :
    request.KnownHost host ↔ request.host? = some host := by
  unfold Request.host?
  constructor
  · intro hknown
    cases hknown with
    | @header value _ hfirst hread hne => simp [hfirst, hread, hne]
    | @authority authority hunread hauthority =>
      have hbind : (request.headers.get? .host).bind HeaderValue.readable? = none :=
        Option.bind_eq_none_iff.2 hunread
      simp [hbind, hauthority, authority.text_ne_empty]
  · intro hhost
    obtain ⟨hfound, hne⟩ := Option.filter_eq_some_iff.1 hhost
    rw [decide_eq_true_eq] at hne
    obtain hheader | ⟨hnone, hauthority⟩ := Option.or_eq_some_iff.1 hfound
    · obtain ⟨value, hfirst, hread⟩ := Option.bind_eq_some_iff.1 hheader
      exact .header hfirst hread hne
    · obtain ⟨authority, hsome, rfl⟩ := Option.map_eq_some_iff.1 hauthority
      exact .authority (Option.bind_eq_none_iff.1 hnone) hsome

namespace Redirect

def authorityText (location : String) : List Char :=
  (location.toList.drop "https://".length).takeWhile (!Uri.endsAuthority ·)

variable {host target : String}

theorem all_not_endsAuthority (hpath : '/' ∉ host.toList) (hquery : '?' ∉ host.toList)
    (hfragment : '#' ∉ host.toList) : host.toList.all (!Uri.endsAuthority ·) = true := by
  apply List.all_eq_true.2
  intro c hc
  unfold Uri.endsAuthority
  simp [ne_of_mem_of_not_mem hc hpath, ne_of_mem_of_not_mem hc hquery,
    ne_of_mem_of_not_mem hc hfragment]

theorem takeWhile_endsAuthority (hhost : host.toList.all (!Uri.endsAuthority ·) = true)
    (htarget : target.toList.head? = some '/') :
    (host.toList ++ target.toList).takeWhile (!Uri.endsAuthority ·) = host.toList := by
  obtain ⟨rest, hrest⟩ := List.head?_eq_some_iff.1 htarget
  rw [List.takeWhile_append_of_pos (List.all_eq_true.1 hhost), hrest,
    List.takeWhile_cons_of_neg (by decide), List.append_nil]

theorem toList_location (host target : String) :
    (location host target).toList = "https://".toList ++ (host.toList ++ target.toList) := by
  unfold location
  rw [String.toList_append, String.toList_append, List.append_assoc]

theorem authorityText_location (hhost : host.toList.all (!Uri.endsAuthority ·) = true)
    (htarget : target.toList.head? = some '/') :
    authorityText (location host target) = host.toList := by
  have hdrop : (location host target).toList.drop "https://".length =
      host.toList ++ target.toList := by
    rw [toList_location]
    exact List.drop_left
  unfold authorityText
  rw [hdrop, takeWhile_endsAuthority hhost htarget]

/-- A location that can be read as a URI has the host for its authority. -/
theorem authority_of_location (hhost : host.toList.all (!Uri.endsAuthority ·) = true)
    (htarget : target.toList.head? = some '/') {uri : Uri}
    (h : Uri.ofText? (location host target) = some uri) :
    uri.scheme = some "https" ∧ uri.authority.map (·.text) = some host := by
  have htext := toList_location host target
  have hscheme : Uri.scanScheme (location host target).toList =
      .present "https".toList (host.toList ++ target.toList) := by
    rw [htext]
    rfl
  have hhead : (location host target).toList.head? = some 'h' := by
    rw [htext]
    rfl
  have hasterisk : location host target ≠ "*" := by
    intro heq
    rw [heq] at htext
    cases htext
  unfold Uri.ofText? at h
  split at h
  · cases h
  · rw [if_neg (by simp [hhead, hasterisk]), hscheme] at h
    dsimp only at h
    rw [takeWhile_endsAuthority hhost htarget, String.ofList_toList] at h
    obtain ⟨authority, hauthority, h⟩ := Option.bind_eq_some_iff.1 h
    obtain ⟨⟨path, query⟩, -, h⟩ := Option.bind_eq_some_iff.1 h
    cases h
    exact ⟨rfl, congrArg some (Authority.text_of_ofText? hauthority)⟩

theorem response?_eq_some_iff {response : Response} :
    response? host target = some response ↔ ∃ value : HeaderValue,
      value.bytes = Utf8.encode (location host target) ∧
      response = {
        status := .movedPermanently
        headers := ⟨[(.location, value)]⟩
        body := [] } := by
  unfold response?
  constructor
  · intro h
    obtain ⟨value, hvalue, h⟩ := Option.bind_eq_some_iff.1 h
    cases h
    exact ⟨value, HeaderValue.ofText?_eq_some_iff.1 hvalue, rfl⟩
  · rintro ⟨value, hbytes, rfl⟩
    rw [HeaderValue.ofText?_eq_some_iff.2 hbytes]
    rfl

end Redirect

namespace RequestHook

variable {hook other : RequestHook} {request like : Request}

theorem answer?_eq_some_iff {response : Response} :
    hook.answer? request = some response ↔ ∃ rule target host,
      Rule.IsFirst hook.redirects request.uri.path rule target ∧ request.KnownHost host ∧
      Redirect.response? host target = some response := by
  constructor
  · intro h
    cases hresolve : hook.resolve request.uri.path with
    | forward path rewrite =>
      rw [answer?_of_forward hresolve] at h
      cases h
    | redirect found =>
      rw [answer?_of_redirect hresolve] at h
      obtain ⟨host, hhost, hbuilt⟩ := Option.bind_eq_some_iff.1 h
      exact ⟨found.rule, found.path, host,
        Rule.isFirst_iff.2 ⟨found.index, resolve_eq_redirect_iff.1 hresolve⟩,
        Request.knownHost_iff.2 hhost, hbuilt⟩
  · rintro ⟨rule, target, host, hfirst, hknown, hbuilt⟩
    obtain ⟨index, hfound⟩ := Rule.isFirst_iff.1 hfirst
    rw [answer?_of_redirect (resolve_eq_redirect_iff.2 hfound), Request.knownHost_iff.1 hknown]
    exact hbuilt

/-- An answer depends on the redirects, the path, the host header and the authority. -/
theorem answer?_congr (hredirects : other.redirects = hook.redirects)
    (hpath : like.uri.path = request.uri.path)
    (hauthority : like.uri.authority = request.uri.authority)
    (hheader : like.headers.get? .host = request.headers.get? .host) :
    other.answer? like = hook.answer? request := by
  have hhost : like.host? = request.host? := by
    unfold Request.host?
    rw [hheader, hauthority]
  unfold answer? resolve
  rw [hredirects, hpath, hhost]
  cases Rule.firstMatch? hook.redirects request.uri.path with
  | some found => rfl
  | none => rfl

/-- A redirect is answered where the first rule that matches gives a path, a host is known and the
location can be a header, and then the location is all that is said. Whatever the path of the viewer
holds, a location on a host leads to this host. Nothing else in a hook or a request has a part in
the answer. -/
theorem responds_with_location (hhook : hook.IsCompiled) (request : Request) :
    (∀ response, (hook.handle request).1 = .respond response ↔ ∃ rule target host,
        ∃ value : HeaderValue,
      Rule.IsFirst hook.redirects request.uri.path rule target ∧ request.KnownHost host ∧
      value.bytes = Utf8.encode ("https://" ++ host ++ target) ∧
      response = { status := ⟨301⟩, headers := ⟨[(.location, value)]⟩, body := [] }) ∧
    (∀ rule ∈ hook.redirects, ∀ path target, rule.route? path = some target →
      target.toList.head? = some '/' ∧
      ∀ host : String, '/' ∉ host.toList → '?' ∉ host.toList → '#' ∉ host.toList →
        Redirect.authorityText (Redirect.location host target) = host.toList ∧
        ∀ uri, Uri.ofText? (Redirect.location host target) = some uri →
          uri.scheme = some "https" ∧ uri.authority.map (·.text) = some host) ∧
    ∀ (other : RequestHook) (like : Request), other.redirects = hook.redirects →
      like.uri.path = request.uri.path → like.uri.authority = request.uri.authority →
      like.headers.get? .host = request.headers.get? .host →
      ∀ response, (other.handle like).1 = .respond response ↔
        (hook.handle request).1 = .respond response := by
  refine ⟨fun response => ?_, ?_, ?_⟩
  · rw [outcome_eq_respond_iff, answer?_eq_some_iff]
    simp only [Redirect.response?_eq_some_iff]
    constructor
    · rintro ⟨rule, target, host, hfirst, hknown, value, hbytes, rfl⟩
      exact ⟨rule, target, host, value, hfirst, hknown, hbytes, rfl⟩
    · rintro ⟨rule, target, host, value, hfirst, hknown, hbytes, rfl⟩
      exact ⟨rule, target, host, hfirst, hknown, value, hbytes, rfl⟩
  · intro rule hmem path target hroute
    have hslash := (hhook.redirects rule hmem).head?_route? hroute
    refine ⟨hslash, ?_⟩
    intro host hpath hquery hfragment
    have hhost := Redirect.all_not_endsAuthority hpath hquery hfragment
    exact ⟨Redirect.authorityText_location hhost hslash,
      fun uri => Redirect.authority_of_location hhost hslash⟩
  · intro other like hredirects hpath hauthority hheader response
    rw [outcome_eq_respond_iff, outcome_eq_respond_iff,
      answer?_congr hredirects hpath hauthority hheader]

/-- A path in which a viewer has written another host leads to the host that was asked. Rewrites
make no difference. -/
theorem responds_to_written_host :
    ∃ (hook other : RequestHook) (request : Request) (value : HeaderValue),
    RequestHook.compile { redirects := [⟨"/old/*", "/*"⟩] } = .ok hook ∧
    other.rewrites = hook.redirects ∧
    request.uri.path = "/old//evil.test/x" ∧ request.KnownHost "shop.test" ∧
    value.bytes = Utf8.encode "https://shop.test//evil.test/x" ∧
    (hook.handle request).1 =
      .respond { status := ⟨301⟩, headers := ⟨[(.location, value)]⟩, body := [] } ∧
    (other.handle request).1 =
      .respond { status := ⟨301⟩, headers := ⟨[(.location, value)]⟩, body := [] } ∧
    Redirect.authorityText (Redirect.location "shop.test" "//evil.test/x") =
      "shop.test".toList := by
  let rule : Rule := {
    source := "/old/*"
    destination := "/*"
    expression := [.literal "/old/".toList, .wildcard]
    captureOrder := [.wildcard 0]
    template := [.literal "/", .capture 0] }
  let hook : RequestHook := { redirects := [rule] }
  let other : RequestHook := { redirects := [rule], rewrites := [rule], spaFallback := false }
  let host : HeaderValue := ⟨Utf8.encode "shop.test", by decide +kernel⟩
  let value : HeaderValue := ⟨Utf8.encode "https://shop.test//evil.test/x", by decide +kernel⟩
  let request : Request :=
    ⟨⟨"GET", by decide⟩, ⟨none, none, "/old//evil.test/x", none⟩, ⟨[(.host, host)]⟩, [], none⟩
  have hcompile : RequestHook.compile { redirects := [⟨"/old/*", "/*"⟩] } = .ok hook := by
    decide +kernel
  have hroute : rule.route? "/old//evil.test/x" = some "//evil.test/x" := by decide +kernel
  have hfirst : Rule.IsFirst hook.redirects request.uri.path rule "//evil.test/x" :=
    ⟨[], [], rfl, by simp, hroute⟩
  have hknown : request.KnownHost "shop.test" :=
    .header (by decide +kernel : request.headers.get? .host = some host)
      (by decide +kernel) (by decide)
  obtain ⟨hrespond, hslash, hsame⟩ :=
    responds_with_location (RequestHook.isCompiled_of_compile hcompile) request
  have hanswer := (hrespond _).2 ⟨rule, _, _, value, hfirst, hknown, rfl, rfl⟩
  obtain ⟨-, hauthority⟩ := hslash rule List.mem_cons_self _ _ hroute
  exact ⟨hook, other, request, value, hcompile, rfl, rfl, hknown, rfl, hanswer,
    (hsame other request rfl rfl rfl rfl _).2 hanswer,
    (hauthority "shop.test" (by decide) (by decide) (by decide)).1⟩

end RequestHook

end EdgeRouting
