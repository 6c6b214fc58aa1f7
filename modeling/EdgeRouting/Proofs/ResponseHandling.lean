import EdgeRouting.Emulator
import EdgeRouting.Proofs.CompiledBundle
import EdgeRouting.Proofs.CutOrder
import EdgeRouting.Proofs.HeaderText
import EdgeRouting.Proofs.RequestHandling

/-!
# What the response hook does to a response

Header rules are chosen by the path the viewer asked for, whether it is read from the note on a
forwarded request or kept by the emulator. Of the rules that match and set the same header the last
one decides, so a built-in header has the value that the site configured last, or its own.
-/

namespace EdgeRouting

namespace ResponseHook

/-- The path by which the response hook chooses its rules is the one the viewer asked for. -/
theorem path_forwarded {hook : RequestHook} {request forwarded : Request}
    (hfresh : request.viewerPath = none) (hforward : (hook.handle request).1 = .forward forwarded) :
    forwarded.viewerPath.getD forwarded.uri.path = request.uri.path := by
  have hhandled := hook.handled request
  generalize hook.handle request = result at hforward hhandled
  cases hhandled with
  | redirected => cases hforward
  | kept | replaced =>
    cases hforward
    rfl
  | hostUnknown | locationIllegal | uriIllegal =>
    cases hforward
    rw [hfresh]
    rfl

/-- For a request that the hook lets go on, however it went, the response hook gives what it gives
for the viewer's path, and that is what the emulator answers with where the origin replies. -/
theorem handle_forwarded {hook : RequestHook} {request forwarded : Request}
    (hfresh : request.viewerPath = none) (hforward : (hook.handle request).1 = .forward forwarded) :
    (∀ (responses : ResponseHook) (response : Response),
      responses.handle forwarded response = responses.inject request.uri.path response ∧
      (responses.handle forwarded response).1 =
        { response with
          headers := HeaderRule.inject responses.rules request.uri.path response.headers }) ∧
    ∀ (e : Emulator) (origin : Origin) (sent : Request) (reply : Response),
      e.bundle.request = hook →
      e.originRequest? forwarded = some sent → origin sent = some reply →
        (e.handle origin request).sent = [sent] ∧
        (e.handle origin request).response = (e.bundle.response.handle forwarded reply).1 := by
  have hpath := path_forwarded hfresh hforward
  have hsame (responses : ResponseHook) (response : Response) :
      responses.handle forwarded response = responses.inject request.uri.path response := by
    rw [handle, hpath]
  refine ⟨fun responses response => ⟨hsame responses response, by rw [hsame]; rfl⟩, ?_⟩
  rintro e origin sent reply rfl hsent hreply
  rw [hsame, Emulator.handle]
  cases hhandle : e.bundle.request.handle request with
  | mk outcome events =>
    rw [hhandle] at hforward
    cases hforward
    simp [Emulator.forward, hsent, hreply]

/-- A rewritten path that another header rule matches. -/
theorem handle_rewritten :
    ∃ (e : Emulator) (origin : Origin) (request forwarded sent : Request) (reply : Response),
    e.bundle.request.rewrites.map (·.source) = ["/blog/*"] ∧
    e.bundle.response.rules.map (·.glob.text) = ["/blog/*", "/posts/**"] ∧
    (e.bundle.request.handle request).1 = .forward forwarded ∧ request.viewerPath = none ∧
    request.uri.path = "/blog/1" ∧ forwarded.uri.path = "/posts/1/index.html" ∧
    e.originRequest? forwarded = some sent ∧ origin sent = some reply ∧
    (e.handle origin request).response = (e.bundle.response.handle forwarded reply).1 ∧
    (e.bundle.response.handle forwarded reply).1.headers.names.map (·.text) = ["x-blog"] := by
  let rule : Rule := {
    source := "/blog/*"
    destination := "/posts/*"
    expression := [.literal "/blog/".toList, .wildcard]
    captureOrder := [.wildcard 0]
    template := [.literal "/posts/", .capture 0] }
  let blog : HeaderRule :=
    ⟨⟨"/blog/*", [.literal "/blog/".toList, .withinSegment]⟩, ⟨"x-blog", by decide +kernel⟩, "1",
      by decide +kernel⟩
  let posts : HeaderRule :=
    ⟨⟨"/posts/**", [.literal "/posts/".toList, .withinLine]⟩, ⟨"x-posts", by decide +kernel⟩, "2",
      by decide +kernel⟩
  let bundle : Bundle := {
    version := 1
    request := { rewrites := [rule] }
    response := { rules := [blog, posts] }
    cachePolicy := { headers := .none, cookies := .none, queryStrings := .none } }
  let e : Emulator := ⟨bundle, ⟨"127.0.0.1:3000", by decide⟩⟩
  let request (authority : Option Authority) (path : String)
      (viewerPath : Option String) : Request :=
    ⟨⟨"GET", by decide⟩, ⟨authority.map fun _ => "http", authority, path, none⟩, .empty,
      [], viewerPath⟩
  let forwarded := request none "/posts/1/index.html" (some "/blog/1")
  let sent := request (some e.origin) "/posts/1/index.html" (some "/blog/1")
  let reply : Response := ⟨⟨200⟩, .empty, []⟩
  have hforward : (e.bundle.request.handle (request none "/blog/1" none)).1 =
      .forward forwarded := by decide +kernel
  have hsent : e.originRequest? forwarded = some sent := by decide +kernel
  obtain ⟨-, hexchange⟩ := handle_forwarded rfl hforward
  exact ⟨e, fun _ => some reply, _, forwarded, sent, reply, rfl, rfl, hforward, rfl, rfl,
    rfl, hsent, rfl, (hexchange e (fun _ => some reply) sent reply rfl hsent rfl).2,
    by decide +kernel⟩

end ResponseHook

namespace HeaderMap

theorem values_remove_self (headers : HeaderMap) (name : HeaderName) :
    (headers.remove name).values name = [] := by
  simp [values, remove]

theorem values_remove_of_ne (headers : HeaderMap) {name other : HeaderName} (h : other ≠ name) :
    (headers.remove name).values other = headers.values other := by
  rw [values, remove, List.filter_filter, values]
  congr 1
  apply List.filter_congr
  intro entry _
  by_cases hentry : entry.1 = other
  · simp [hentry, h]
  · simp [hentry]

theorem values_append (headers : HeaderMap) (name other : HeaderName) (value : HeaderValue) :
    (headers.append name value).values other =
      headers.values other ++ if name = other then [value] else [] := by
  rw [append, values, List.filter_append, List.map_append, values]
  by_cases h : name = other
  · simp [h]
  · simp [h]

theorem values_insert_self (headers : HeaderMap) (name : HeaderName) (value : HeaderValue) :
    (headers.insert name value).values name = [value] := by
  rw [insert, values_append, values_remove_self, if_pos rfl, List.nil_append]

theorem values_insert_of_ne (headers : HeaderMap) {name other : HeaderName} (value : HeaderValue)
    (h : name ≠ other) : (headers.insert name value).values other = headers.values other := by
  rw [insert, values_append, headers.values_remove_of_ne h.symm, if_neg h, List.append_nil]

end HeaderMap

namespace HeaderRule

/-- The last of some rules that set a header decides it. -/
theorem values_foldl_set (rules : List HeaderRule) (headers : HeaderMap) (name : HeaderName) :
    (rules.foldl set headers).values name =
      ((rules.filter (·.name = name)).getLast?).elim (headers.values name)
        fun rule => [rule.value] := by
  -- From the back: the last rule either decides the header or leaves it as the rules in front of it
  -- do.
  induction rules using List.reverseRecOn with
  | nil => rfl
  | append_singleton rules rule ih =>
    rw [List.foldl_concat, List.filter_append, set]
    by_cases hname : rule.name = name
    · subst hname
      simp [HeaderMap.values_insert_self]
    · rw [HeaderMap.values_insert_of_ne _ _ hname, ih]
      simp [hname]

end HeaderRule

/-- Whether an entry of a configuration sets a header, which it names in any letter case, for a
path. -/
def HeaderEntry.sets (entry : HeaderEntry) (path : String) (name : HeaderName) : Bool :=
  (Glob.compile entry.path).toOption.any (·.isMatch path) &&
    entry.name.toList.map Char.toLower == name.text.toList

namespace HeaderRule

variable {entry : HeaderEntry} {rule : HeaderRule} {entries : List HeaderEntry}
  {rules : List HeaderRule}

theorem of_ofEntry (h : ofEntry entry = .ok rule) : Glob.compile entry.path = .ok rule.glob ∧
    entry.name.toList.map Char.toLower = rule.name.text.toList ∧ rule.text = entry.value := by
  rw [ofEntry, compile, Accepted.bind_eq_ok_iff] at h
  obtain ⟨glob, hglob, h⟩ := h
  rw [ofParts] at h
  split at h
  · cases h
  case h_2 name hname =>
    split at h
    · cases h
      rw [HeaderName.ofText?] at hname
      split at hname
      · cases hname
        exact ⟨hglob, String.toList_ofList.symm, rfl⟩
      · cases hname
    · cases h

theorem sets_of_ofEntry (h : ofEntry entry = .ok rule) (path : String) (name : HeaderName) :
    entry.sets path name = (rule.glob.isMatch path && decide (rule.name = name)) := by
  obtain ⟨hglob, hname, -⟩ := of_ofEntry h
  have hsame : (rule.name.text.toList == name.text.toList) = decide (rule.name = name) := by
    rw [beq_eq_decide, decide_eq_decide, String.toList_inj]
    exact ⟨HeaderName.eq_of_text, congrArg HeaderName.text⟩
  rw [HeaderEntry.sets, hglob, hname, hsame]
  rfl

/-- The entries that set a header and the compiled rules that do have the same values, one by
one. -/
theorem texts_of_entries (h : entries.mapM ofEntry = .ok rules) (path : String)
    (name : HeaderName) :
    ((matching rules path).filter (·.name = name)).map (·.text) =
      (entries.filter (·.sets path name)).map (·.value) := by
  rw [matching, List.filter_filter]
  have hall := Accepted.mapM_eq_ok_iff.1 h
  clear h
  induction hall with
  | nil => rfl
  | @cons entry rule entries rules hentry _ ih =>
    have hsets := sets_of_ofEntry hentry path name
    rw [Bool.and_comm] at hsets
    rw [List.filter_cons, List.filter_cons, ← hsets]
    cases entry.sets path name with
    | false => simpa using ih
    | true => simpa [(of_ofEntry hentry).2.2] using ih

theorem isMatch_matchAll {path : String} (h : '\n' ∉ path.toList) :
    matchAll.isMatch path = true := by
  rw [Glob.isMatch, Expression.isMatch_iff]
  exact ⟨[path.toList], [], by simp, h, rfl, rfl⟩

theorem matching_builtIn (defaults : Defaults) {path : String} (h : '\n' ∉ path.toList) :
    matching (builtIn defaults) path = builtIn defaults := by
  rw [matching, List.filter_eq_self]
  intro rule hrule
  rw [glob_of_mem_builtIn hrule]
  exact isMatch_matchAll h

theorem filter_builtIn {defaults : Defaults} (h : rule ∈ builtIn defaults) :
    (builtIn defaults).filter (·.name = rule.name) = [rule] := by
  have hdistinct : ∀ securityHeaders cors, ∀ rule ∈ builtIn { securityHeaders, cors },
      (builtIn { securityHeaders, cors }).filter (·.name = rule.name) = [rule] := by
    decide +kernel
  exact hdistinct defaults.securityHeaders defaults.cors rule h

theorem mem_builtIn_iff {defaults : Defaults} : rule ∈ builtIn defaults ↔
    defaults.securityHeaders = true ∧ rule ∈ security ∨
    defaults.cors = true ∧ rule ∈ crossOrigin := by
  rw [builtIn, List.mem_append]
  cases defaults.securityHeaders <;> cases defaults.cors <;> simp

/-- A built-in header has its own value unless a configured rule sets it. -/
theorem values_inject_builtIn {defaults : Defaults} (h : rule ∈ builtIn defaults)
    (configured : List HeaderRule) {path : String} (hline : '\n' ∉ path.toList)
    (headers : HeaderMap) :
    (inject (builtIn defaults ++ configured) path headers).values rule.name =
      [(((matching configured path).filter (·.name = rule.name)).getLast?.getD rule).value] := by
  have happlied : (matching (builtIn defaults ++ configured) path).filter (·.name = rule.name) =
      rule :: (matching configured path).filter (·.name = rule.name) := by
    have hbuiltIns := matching_builtIn defaults hline
    rw [matching] at hbuiltIns ⊢
    rw [List.filter_append, hbuiltIns, List.filter_append, filter_builtIn h]
    rfl
  rw [inject, values_foldl_set, happlied, List.getLast?_cons]
  rfl

end HeaderRule

namespace ResponseHook

/-- Whatever an origin replies, a built-in header of an enabled group has exactly one value: that of
the last entry of the configuration that sets the header for the path, or its own where no entry
does. -/
theorem values_of_builtIn {config : Config} {hook : ResponseHook}
    (hcompile : ResponseHook.compile config = .ok hook) {rule : HeaderRule}
    (henabled : config.defaults.securityHeaders = true ∧ rule ∈ HeaderRule.security ∨
      config.defaults.cors = true ∧ rule ∈ HeaderRule.crossOrigin)
    {uri : Uri} (huri : uri.IsLegal) (response : Response) :
    ((hook.inject uri.path response).1.headers.values rule.name).map (·.bytes) =
      [Utf8.encode (((config.headers.filter (·.sets uri.path rule.name)).getLast?.map
        (·.value)).getD rule.text)] := by
  have hline : '\n' ∉ uri.path.toList := Uri.notMem_of_all huri.path (by decide)
  simp only [ResponseHook.compile, HeaderRule.compileAll, Accepted.bind_eq_ok_iff] at hcompile
  obtain ⟨rules, ⟨configured, hconfigured, hrules⟩, hhook⟩ := hcompile
  cases hrules
  cases hhook
  have hlast := congrArg List.getLast? (HeaderRule.texts_of_entries hconfigured uri.path rule.name)
  rw [List.getLast?_map, List.getLast?_map] at hlast
  rw [inject,
    HeaderRule.values_inject_builtIn (HeaderRule.mem_builtIn_iff.2 henabled) configured hline,
    ← hlast, Option.getD_map]
  rfl

/-- A site that lets some of its pages be framed and some of its answers be kept for a minute only,
and an origin that has a mind of its own. -/
theorem values_of_both_groups :
    ∃ (config : Config) (hook : ResponseHook) (framing age : HeaderName) (response : Response),
    config.headers =
      [⟨"/embed/*", "X-Frame-OPTIONS", "SAMEORIGIN"⟩, ⟨"/live/*", "Access-Control-Max-Age", "60"⟩] ∧
    config.defaults = { securityHeaders := true, cors := true } ∧
    ResponseHook.compile config = .ok hook ∧
    framing.text = "x-frame-options" ∧ age.text = "access-control-max-age" ∧
    (response.headers.values framing).map (·.bytes) =
      [Utf8.encode "ALLOWALL", Utf8.encode "ALLOW-FROM"] ∧
    response.headers.values age = [] ∧
    ((hook.inject "/embed/widget" response).1.headers.values framing).map (·.bytes) =
      [Utf8.encode "SAMEORIGIN"] ∧
    ((hook.inject "/live/1" response).1.headers.values framing).map (·.bytes) =
      [Utf8.encode "DENY"] ∧
    ((hook.inject "/embed/widget" response).1.headers.values age).map (·.bytes) =
      [Utf8.encode "600"] ∧
    ((hook.inject "/live/1" response).1.headers.values age).map (·.bytes) = [Utf8.encode "60"] := by
  let config : Config := {
    headers :=
      [⟨"/embed/*", "X-Frame-OPTIONS", "SAMEORIGIN"⟩, ⟨"/live/*", "Access-Control-Max-Age", "60"⟩]
    defaults := { securityHeaders := true, cors := true } }
  let framing : HeaderName := ⟨"x-frame-options", by decide +kernel⟩
  let age : HeaderName := ⟨"access-control-max-age", by decide +kernel⟩
  let embedded : HeaderRule :=
    ⟨⟨"/embed/*", [.literal "/embed/".toList, .withinSegment]⟩, framing, "SAMEORIGIN",
      by decide +kernel⟩
  let live : HeaderRule :=
    ⟨⟨"/live/*", [.literal "/live/".toList, .withinSegment]⟩, age, "60", by decide +kernel⟩
  let hook : ResponseHook := ⟨HeaderRule.builtIn config.defaults ++ [embedded, live]⟩
  let response : Response := {
    status := ⟨200⟩
    headers :=
      (HeaderMap.empty.append framing ⟨Utf8.encode "ALLOWALL", by decide +kernel⟩).append framing
      ⟨Utf8.encode "ALLOW-FROM", by decide +kernel⟩
    body := [] }
  have hcompile : ResponseHook.compile config = .ok hook := by decide +kernel
  have hwidget : Uri.ofText? "/embed/widget" = some ⟨none, none, "/embed/widget", none⟩ := by
    decide +kernel
  have hlive : Uri.ofText? "/live/1" = some ⟨none, none, "/live/1", none⟩ := by decide +kernel
  have hframing {uri : Uri} := @values_of_builtIn config hook hcompile
    (HeaderRule.everywhere framing "DENY" (by decide +kernel)) (.inl ⟨rfl, List.mem_cons_self⟩) uri
  have hage {uri : Uri} := @values_of_builtIn config hook hcompile
    (HeaderRule.everywhere age "600" (by decide +kernel)) (.inr ⟨rfl, by decide +kernel⟩) uri
  refine ⟨config, hook, framing, age, response, rfl, rfl, hcompile, rfl, rfl, by decide +kernel,
    by decide +kernel,
    (hframing (Uri.isLegal_of_ofText? hwidget) response).trans (by decide +kernel),
    (hframing (Uri.isLegal_of_ofText? hlive) response).trans (by decide +kernel),
    (hage (Uri.isLegal_of_ofText? hwidget) response).trans (by decide +kernel),
    (hage (Uri.isLegal_of_ofText? hlive) response).trans (by decide +kernel)⟩

example :
    (HeaderRule.builtIn { securityHeaders := true, cors := true }).map
      (fun rule => (rule.name.text, rule.text)) = [
    ("x-frame-options", "DENY"),
    ("x-content-type-options", "nosniff"),
    ("strict-transport-security", "max-age=31536000; includeSubDomains; preload"),
    ("content-security-policy", "default-src 'self'; base-uri 'self'; object-src 'none'; " ++
      "frame-ancestors 'none'; upgrade-insecure-requests"),
    ("x-xss-protection", "1; mode=block"),
    ("access-control-allow-origin", "*"),
    ("access-control-allow-methods", "GET, HEAD, OPTIONS"),
    ("access-control-allow-headers", "*"),
    ("access-control-max-age", "600"),
    ("access-control-allow-credentials", "false")] := by
  decide +kernel

end ResponseHook

end EdgeRouting
