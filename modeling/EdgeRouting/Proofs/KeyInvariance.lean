import EdgeRouting.Proofs.KeyedParts

/-!
# What a cache key does not depend on

Requests that agree on everything a policy selects have the same key. The parts of a query stand
between ampersands and those of a cookie line between semicolons; only the parts that are kept
count, in whatever order and on whatever line they were sent.
-/

namespace EdgeRouting

def joined (separator : Char) (parts : List (List Char)) : String :=
  String.ofList ([separator].intercalate parts)

theorem filter_splitOn_joined {separator : Char} {parts : List (List Char)}
    (h : ∀ part ∈ parts, separator ∉ part) {keep : List Char → Bool} (hempty : keep [] = false) :
    ((joined separator parts).toList.splitOn separator).filter keep = parts.filter keep := by
  rw [joined, String.toList_ofList]
  cases parts with
  | nil => simp [List.intercalate, hempty]
  | cons part parts => rw [List.splitOn_intercalate separator h (List.cons_ne_nil _ _)]

def HeaderMap.cookieLines (headers : HeaderMap) : List String :=
  (headers.values .cookie).filterMap HeaderValue.readable?

namespace CacheDescriptor

variable {d : CacheDescriptor}

def keepsParameter (d : CacheDescriptor) (part : List Char) : Bool :=
  part ≠ [] && d.queryStrings.includes (String.ofList (Component.nameOf part))

def keepsCookie (d : CacheDescriptor) (part : List Char) : Bool :=
  part ≠ [] && d.cookies.includes (String.ofList (Component.trim (Component.nameOf part)))

/-- A query in parts. An absent query has none. -/
def IsQueryOf (parts : List (List Char)) (query : Option String) : Prop :=
  query = none ∧ parts = [] ∨ query = some (joined '&' parts)

theorem IsQueryOf.selectedQuery_eq {parts : List (List Char)} {query : Option String}
    (h : IsQueryOf parts query) (hparts : ∀ part ∈ parts, '&' ∉ part) :
    d.selectedQuery query = (parts.filter d.keepsParameter).map Component.parameter := by
  rcases h with ⟨rfl, rfl⟩ | rfl
  · rfl
  rw [selectedQuery, Option.map_some, Option.getD_some, Component.ofQuery_eq, List.filter_map,
    List.filter_filter, filter_splitOn_joined hparts (by simp)]
  congr 1
  apply List.filter_congr
  intro part _
  rw [keepsParameter, Bool.and_comm]
  rfl

/-- The selected cookies of some lines are those of all their parts, trimmed. -/
theorem selectedCookies_joined {headers : HeaderMap} {lines : List (List (List Char))}
    (hlines : headers.cookieLines = lines.map (joined ';'))
    (h : ∀ line ∈ lines, ∀ part ∈ line, ';' ∉ part) :
    d.selectedCookies headers =
      ((lines.flatten.map Component.trim).filter d.keepsCookie).map Component.cookie := by
  have hline : ∀ line ∈ lines, Component.ofCookieLine (joined ';' line) =
      ((line.map Component.trim).filter (· ≠ [])).map Component.cookie := by
    intro line hmem
    rw [Component.ofCookieLine_eq, List.filter_map, List.filter_map,
      filter_splitOn_joined (h line hmem) (by decide)]
  have hall : Component.ofCookies headers =
      ((lines.flatten.map Component.trim).filter (· ≠ [])).map Component.cookie := by
    rw [Component.ofCookies, ← HeaderMap.cookieLines, hlines, List.flatMap_map,
      List.flatMap_congr hline, List.map_flatten, List.filter_flatten, List.map_flatten,
      List.map_map, List.map_map, ← List.flatMap_def]
    rfl
  rw [selectedCookies, hall, List.filter_map, List.filter_filter]
  congr 1
  apply List.filter_congr
  intro part _
  rw [keepsCookie, Bool.and_comm]
  rfl

/-- Only the selections count. With every part of the query and of the cookie lines written out, the
key is the same for any order of the kept parts and whatever other parts, empty ones among them,
stand between them; it is the same for any headers that leave the selected names and the cookies as
they are, and for any method. -/
theorem cacheKey_determined (d : CacheDescriptor)
    (hcookie : d.headers.includes HeaderName.cookie.text = false) :
    (∀ a b : Request, d.SameKeyed a b → d.cacheKey a = d.cacheKey b) ∧
    (∀ (request : Request) (method : Method),
      d.cacheKey { request with method } = d.cacheKey request) ∧
    (∀ (request : Request) (headers : HeaderMap),
      (∀ name, d.headers.includes name.text = true ∨ name = .cookie →
        headers.values name = request.headers.values name) →
      d.cacheKey { request with headers } = d.cacheKey request) ∧
    (∀ (request : Request) (query : Option String) (parts parts' : List (List Char)),
      (∀ part ∈ parts ++ parts', '&' ∉ part) → IsQueryOf parts request.uri.query →
      IsQueryOf parts' query →
      (parts.filter d.keepsParameter).Perm (parts'.filter d.keepsParameter) →
      d.cacheKey { request with uri.query := query } = d.cacheKey request) ∧
    (∀ (request : Request) (headers : HeaderMap) (lines lines' : List (List (List Char))),
      (∀ line ∈ lines ++ lines', ∀ part ∈ line, ';' ∉ part) →
      request.headers.cookieLines = lines.map (joined ';') →
      headers.cookieLines = lines'.map (joined ';') →
      (∀ name, name ≠ .cookie → headers.values name = request.headers.values name) →
      ((lines.flatten.map Component.trim).filter d.keepsCookie).Perm
        ((lines'.flatten.map Component.trim).filter d.keepsCookie) →
      d.cacheKey { request with headers } = d.cacheKey request) := by
  refine ⟨fun a b h => h.cacheKey_eq, fun request method => rfl, ?_, ?_, ?_⟩
  · intro request headers hvalues
    have hcookies : d.selectedCookies headers = d.selectedCookies request.headers := by
      rw [selectedCookies, selectedCookies, Component.ofCookies, Component.ofCookies,
        hvalues .cookie (.inr rfl)]
    apply SameKeyed.cacheKey_eq
    exact ⟨rfl, fun name hname => hvalues name (.inl hname), .of_eq hcookies, .refl _⟩
  · intro request query parts parts' hparts hquery hquery' hperm
    have hselected : (d.selectedQuery query).Perm (d.selectedQuery request.uri.query) := by
      rw [hquery.selectedQuery_eq fun part hmem => hparts part (List.mem_append_left _ hmem),
        hquery'.selectedQuery_eq fun part hmem => hparts part (List.mem_append_right _ hmem)]
      exact hperm.symm.map _
    apply SameKeyed.cacheKey_eq
    exact ⟨rfl, fun _ _ => rfl, .refl _, hselected⟩
  · intro request headers lines lines' hparts hlines hlines' hvalues hperm
    have hcookies : (d.selectedCookies headers).Perm (d.selectedCookies request.headers) := by
      rw [selectedCookies_joined hlines fun line hmem => hparts line (List.mem_append_left _ hmem),
        selectedCookies_joined hlines' fun line hmem => hparts line (List.mem_append_right _ hmem)]
      exact hperm.symm.map _
    -- The cookie header itself is not selected, so its lines show through the cookies alone.
    have hname : ∀ name : HeaderName, d.headers.includes name.text = true → name ≠ .cookie := by
      rintro name hname rfl
      rw [hcookie] at hname
      cases hname
    apply SameKeyed.cacheKey_eq
    exact ⟨rfl, fun name h => hvalues name (hname name h), hcookies, .refl _⟩

/-- Parameters in another order with an empty and an unselected one between them, a cookie on
another line, headers that are not selected. -/
theorem cacheKey_shuffled_request : ∃ (d : CacheDescriptor) (a b : Request),
    d.headers.includes HeaderName.cookie.text = false ∧
    Uri.ofText? "/docs?b=2&&a=1&utm=mail" = some a.uri ∧ Uri.ofText? "/docs?a=1&b=2" = some b.uri ∧
    a.headers.cookieLines = ["theme=dark; session=abc"] ∧
    b.headers.cookieLines = ["session=abc ;", "id=7"] ∧
    a.headers.names.length = 2 ∧ b.headers.names.length = 3 ∧
    d.SameKeyed a b ∧ d.cacheKey a = d.cacheKey b := by
  let d : CacheDescriptor := ⟨.allowList ["accept"], .allowList ["session"], .allExcept ["utm"]⟩
  let value (text : String) (legal : (Utf8.encode text).all isHeaderByte = true) : HeaderValue :=
    ⟨_, legal⟩
  let a : Request := {
    method := ⟨"GET", by decide +kernel⟩
    uri := ⟨none, none, "/docs", some "b=2&&a=1&utm=mail"⟩
    headers := ⟨[(⟨"accept", by decide +kernel⟩, value "text/html" (by decide +kernel)),
      (.cookie, value "theme=dark; session=abc" (by decide +kernel))]⟩
    body := [] }
  let b : Request := {
    method := ⟨"HEAD", by decide +kernel⟩
    uri := ⟨none, none, "/docs", some "a=1&b=2"⟩
    headers :=
      ⟨[(.cookie, value "session=abc ;" (by decide +kernel)),
        (.host, value "example.com" (by decide +kernel)),
      (⟨"accept", by decide +kernel⟩, value "text/html" (by decide +kernel)),
      (.cookie, value "id=7" (by decide +kernel))]⟩
    body := [] }
  have hcookie : d.headers.includes HeaderName.cookie.text = false := by decide +kernel
  have hsame : d.SameKeyed a b := by
    refine ⟨rfl, fun name hname => ?_, ?_, ?_⟩
    · have htext : name.text = "accept" := by simpa [d, Selector.includes] using hname
      obtain rfl : name = ⟨"accept", by decide +kernel⟩ := HeaderName.eq_of_text htext
      decide +kernel
    · decide +kernel
    · decide +kernel
  exact ⟨d, a, b, hcookie, by decide +kernel, by decide +kernel, by decide +kernel,
    by decide +kernel, by decide +kernel, by decide +kernel, hsame,
    (cacheKey_determined d hcookie).1 a b hsame⟩

end CacheDescriptor

end EdgeRouting
