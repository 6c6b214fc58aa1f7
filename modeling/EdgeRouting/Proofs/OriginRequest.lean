import EdgeRouting.Proofs.ForwardedParts
import EdgeRouting.Proofs.UriText

/-!
# The request to the origin

A query that is forwarded has no characters that the query of the viewer did not have, and no more
of them, and forwarded cookies make a legal value. So the request to the origin is always built, if
the path is absolute. It keeps everything but the place it goes to, the query and the cookies.
-/

namespace EdgeRouting

structure Emulator.IsSentFor (e : Emulator) (request sent : Request) : Prop where
  scheme : sent.uri.scheme = some "http"
  authority : sent.uri.authority = some e.origin
  path : sent.uri.path = request.uri.path
  query : sent.uri.query = e.bundle.cachePolicy.forwardedQuery? request.uri.query
  headers : request.headers.CookiesReplaced (e.bundle.cachePolicy.forwardedCookies? request.headers)
    sent.headers
  method : sent.method = request.method
  body : sent.body = request.body
  viewerPath : sent.viewerPath = request.viewerPath

theorem utf8ByteSize_le_of_sublist {text text' : List Char} (h : text.Sublist text') :
    (String.ofList text).utf8ByteSize ≤ (String.ofList text').utf8ByteSize := by
  induction h with
  | slnil => exact le_rfl
  | cons c h ih =>
    rw [String.ofList_cons, String.utf8ByteSize_append]
    omega
  | cons_cons c h ih =>
    rw [String.ofList_cons, String.ofList_cons, String.utf8ByteSize_append,
      String.utf8ByteSize_append]
    omega

theorem utf8ByteSize_dropWhile_lt {p : Char → Bool} {text : List Char} (h : text.takeWhile p ≠ []) :
    (String.ofList (text.dropWhile p)).utf8ByteSize < (String.ofList text).utf8ByteSize := by
  cases text with
  | nil => exact absurd rfl h
  | cons c rest =>
    have hc : p c = true := by
      by_contra hc
      exact h (List.takeWhile_cons_of_neg hc)
    have hrest := utf8ByteSize_le_of_sublist (List.dropWhile_suffix p (l := rest)).sublist
    have hpos := c.utf8Size_pos
    rw [List.dropWhile_cons_of_pos hc, String.ofList_cons, String.utf8ByteSize_append,
      String.utf8ByteSize_singleton]
    omega

namespace Uri

variable {uri replaced : Uri} {text path : String} {query : Option String}

/-- A path and a query that are read are what stands in front of the fragment, with a slash for an
empty path. -/
theorem toList_of_readPathAndQuery? {text : List Char}
    (h : readPathAndQuery? text = some (path, query)) :
    path.toList = (if (text.takeWhile (· != '#')).takeWhile (· != '?') = [] then ['/']
      else (text.takeWhile (· != '#')).takeWhile (· != '?')) ∧
    (queryText query).toList = (text.takeWhile (· != '#')).dropWhile (· != '?') := by
  rw [readPathAndQuery?] at h
  generalize text.takeWhile (· != '#') = kept at h ⊢
  split at h
  case isFalse => cases h
  case isTrue =>
    cases h
    constructor
    · by_cases hempty : kept.takeWhile (· != '?') = []
      · rw [if_pos hempty, hempty]
        rfl
      · rw [if_neg hempty, if_neg (by simpa using hempty), String.toList_ofList]
    · cases hquery : kept.dropWhile (· != '?') with
      | nil =>
        have hmark : '?' ∉ kept :=
          all_bne_iff.1 (List.all_eq_true.2 (List.dropWhile_eq_nil_iff.1 hquery))
        rw [if_neg (by simpa using hmark), toList_queryText_none]
      | cons c rest =>
        have hc : c = '?' := by simpa using not_of_dropWhile_eq_cons hquery
        have hmark : '?' ∈ kept :=
          (List.dropWhile_suffix _).subset (by rw [hquery, hc]; exact List.mem_cons_self)
        rw [if_pos (by simpa using hmark), toList_queryText_some, String.toList_ofList, hc,
          List.tail_cons]

/-- A path that begins with a slash takes no more room than the text it was read from. -/
theorem sublist_of_readPathAndQuery? {rest : List Char}
    (h : readPathAndQuery? ('/' :: rest) = some (path, query)) :
    path.toList.head? = some '/' ∧ (path ++ queryText query).toList.Sublist ('/' :: rest) := by
  obtain ⟨hpath, hquery⟩ := toList_of_readPathAndQuery? h
  have hslash : (('/' :: rest).takeWhile (· != '#')).takeWhile (· != '?') =
      '/' :: (rest.takeWhile (· != '#')).takeWhile (· != '?') := rfl
  rw [hslash, if_neg (List.cons_ne_nil _ _), ← hslash] at hpath
  constructor
  · rw [hpath, hslash, List.head?_cons]
  · rw [String.toList_append, hpath, hquery, List.takeWhile_append_dropWhile]
    exact (List.takeWhile_prefix _).sublist

/-- Any other path is one slash longer at most. -/
theorem sublist_cons_of_readPathAndQuery? {text : List Char}
    (h : readPathAndQuery? text = some (path, query)) :
    (path ++ queryText query).toList.Sublist ('/' :: text) := by
  obtain ⟨hpath, hquery⟩ := toList_of_readPathAndQuery? h
  have hkept := (List.takeWhile_prefix (fun c => c != '#') (l := text)).sublist
  rw [String.toList_append, hpath, hquery]
  by_cases hempty : (text.takeWhile (· != '#')).takeWhile (· != '?') = []
  · rw [if_pos hempty]
    exact ((List.dropWhile_suffix _).sublist.trans hkept).cons_cons '/'
  · rw [if_neg hempty, List.takeWhile_append_dropWhile]
    exact hkept.cons '/'

/-- What is read behind a slash fits, since its text does. -/
theorem fits_of_pathAndQuery? (hslash : text.toList.head? = some '/')
    (h : pathAndQuery? text = some (path, query)) :
    path.toList.head? = some '/' ∧ (path ++ queryText query).utf8ByteSize ≤ uriLimit := by
  rw [pathAndQuery?] at h
  split at h
  case isTrue hasterisk =>
    subst hasterisk
    exact absurd hslash (by decide)
  case isFalse =>
    split at h
    case isTrue => cases h
    case isFalse hfits =>
      rw [if_pos (by rw [hslash]; rfl)] at h
      obtain ⟨rest, hrest⟩ := List.head?_eq_some_iff.1 hslash
      rw [hrest] at h
      obtain ⟨habsolute, hsublist⟩ := sublist_of_readPathAndQuery? h
      have hsize := utf8ByteSize_le_of_sublist hsublist
      rw [← hrest, String.ofList_toList, String.ofList_toList] at hsize
      exact ⟨habsolute, hsize.trans (Nat.not_lt.1 hfits)⟩

theorem suffix_of_scanScheme {text scheme rest : List Char}
    (h : scanScheme text = .present scheme rest) : rest.IsSuffix text := by
  rw [scanScheme] at h
  split at h
  · cases h
    exact List.drop_suffix _ _
  · split at h
    · cases h
      exact List.drop_suffix _ _
    · split at h
      · cases h
      · dsimp only at h
        split at h
        · split at h
          · cases h
          · cases h
            exact (List.drop_suffix _ _).trans (List.dropWhile_suffix _)
        · cases h

/-- Behind an authority, which is not empty, there is room for one more slash. -/
theorem fits_behind_authority {rest : List Char} {p : Char → Bool}
    (hrest : rest.IsSuffix text.toList) (hauthority : rest.takeWhile p ≠ [])
    (h : readPathAndQuery? (rest.dropWhile p) = some (path, query)) :
    (path ++ queryText query).utf8ByteSize ≤ text.utf8ByteSize := by
  have hwritten := utf8ByteSize_le_of_sublist (sublist_cons_of_readPathAndQuery? h)
  have hbehind := utf8ByteSize_dropWhile_lt hauthority
  have hsize := utf8ByteSize_le_of_sublist hrest.sublist
  have hslash : ('/').utf8Size = 1 := rfl
  rw [String.ofList_toList, String.ofList_cons, @String.utf8ByteSize_append (String.singleton '/'),
    String.utf8ByteSize_singleton] at hwritten
  rw [String.ofList_toList] at hsize
  omega

/-- A URI that is read and has an absolute path can hold it. -/
theorem canHold_of_ofText? (h : ofText? text = some uri)
    (habsolute : uri.path.toList.head? = some '/') : uri.CanHold uri.path := by
  have hlegal := isLegal_of_ofText? h
  obtain ⟨hfits, hread⟩ := isReadFrom_of_ofText? h
  refine ⟨hlegal, habsolute, ?_⟩
  cases hread with
  | withoutAuthority hbegins hread =>
    rcases hbegins with rfl | hslash
    · cases hread
      exact absurd habsolute (by decide)
    · exact (fits_of_pathAndQuery? hslash hread).2
  | alone hauthority => cases habsolute
  | @behindScheme scheme rest authority path query hscheme hauthority hread =>
    have hne : rest.takeWhile (!endsAuthority ·) ≠ [] := by
      intro hempty
      rw [hempty] at hauthority
      exact authority.text_ne_empty (Authority.text_of_ofText? hauthority)
    exact (fits_behind_authority (suffix_of_scanScheme hscheme) hne hread).trans hfits

/-- A URI whose path is replaced by an absolute one can hold it too. -/
theorem canHold_of_withPath? (hslash : path.toList.head? = some '/')
    (h : uri.withPath? path = some replaced) : replaced.CanHold replaced.path := by
  have hlegal := isLegal_of_withPath? h
  obtain ⟨⟨readPath, query⟩, hread, h⟩ := Option.bind_eq_some_iff.1 h
  have hbegins : (path ++ queryText uri.query).toList.head? = some '/' := by
    rw [String.toList_append, List.head?_append, hslash]
    rfl
  obtain ⟨habsolute, hfits⟩ := fits_of_pathAndQuery? hbegins hread
  dsimp only at h
  split at h
  · cases h
  · cases h
    exact ⟨hlegal, habsolute, hfits⟩

/-- A query that is no longer takes the place of the one behind the path. -/
theorem CanHold.pathAndQuery?_eq (h : uri.CanHold path)
    (hquery : ∀ text ∈ query, text.toList.all isQueryChar = true)
    (hsize : (queryText query).utf8ByteSize ≤ (queryText uri.query).utf8ByteSize) :
    pathAndQuery? (path ++ queryText query) = some (path, query) := by
  have hne : path ≠ "" := by
    rintro rfl
    cases h.absolute
  have hasterisk : ¬ (path = "*" ∧ query = none) := by
    rintro ⟨rfl, -⟩
    exact absurd h.absolute (by decide)
  have hfits := h.fits
  rw [String.utf8ByteSize_append] at hfits
  rw [pathAndQuery?_written hne (question_notMem_path h.legal.path)
    (fragment_notMem_path h.legal.path) hquery, if_neg hasterisk, String.utf8ByteSize_append,
    if_neg (by omega), if_pos ⟨h.absolute, h.legal.path⟩]

end Uri

theorem CacheDescriptor.sublist_of_forwardedQuery? {d : CacheDescriptor} {query : Option String}
    {text : String} (h : d.forwardedQuery? query = some text) :
    ∃ original, query = some original ∧ text.toList.Sublist original.toList := by
  obtain ⟨parts, hparts, hquery⟩ := exists_queryParts query
  have hjoined := @IsQueryOf.isJoined_forwardedQuery? d _ _ hquery hparts
  rw [h] at hjoined
  rcases hquery with ⟨-, rfl⟩ | rfl
  · exact absurd rfl hjoined.1
  · refine ⟨_, rfl, ?_⟩
    rw [hjoined.2, joined, String.toList_ofList, String.toList_ofList]
    exact intercalate_sublist List.filter_sublist

namespace Emulator

/-- The forwarded query stands behind the path as the whole query did. -/
theorem pathAndQuery?_forwarded {d : CacheDescriptor} {uri : Uri} (h : uri.CanHold uri.path) :
    Uri.pathAndQuery? (uri.path ++ Uri.queryText (d.forwardedQuery? uri.query)) =
      some (uri.path, d.forwardedQuery? uri.query) := by
  apply h.pathAndQuery?_eq
  · intro text htext
    obtain ⟨original, horiginal, hsublist⟩ := CacheDescriptor.sublist_of_forwardedQuery? htext
    have hlegal := List.all_eq_true.1 (h.legal.query original horiginal)
    exact List.all_eq_true.2 fun c hc => hlegal c (hsublist.subset hc)
  · cases hforwarded : d.forwardedQuery? uri.query with
    | none => exact Nat.zero_le _
    | some text =>
      obtain ⟨original, horiginal, hsublist⟩ :=
        CacheDescriptor.sublist_of_forwardedQuery? hforwarded
      have hsize := utf8ByteSize_le_of_sublist hsublist
      rw [String.ofList_toList, String.ofList_toList] at hsize
      rw [horiginal, Uri.queryText, Uri.queryText, String.utf8ByteSize_append,
        String.utf8ByteSize_append]
      omega

/-- Every URI that is read with an absolute path, or gets an absolute path for its own, has room for
its text; and every request with such a URI is sent on. It goes to the origin with the same path,
and of the query and the cookies goes what is forwarded. -/
theorem sends_every_request :
    (∀ (text : String) (uri : Uri), Uri.ofText? text = some uri → uri.path.toList.head? = some '/' →
      uri.CanHold uri.path) ∧
    (∀ (uri replaced : Uri) (path : String), path.toList.head? = some '/' →
      uri.withPath? path = some replaced →
      replaced.CanHold replaced.path) ∧
    ∀ (e : Emulator) (request : Request), request.uri.CanHold request.uri.path →
      ∃ sent, e.originRequest? request = some sent ∧ e.IsSentFor request sent := by
  refine ⟨fun _ _ => Uri.canHold_of_ofText?, fun _ _ _ => Uri.canHold_of_withPath?,
    fun e request huri => ?_⟩
  obtain ⟨headers, hheaders, hreplaced⟩ :=
    e.bundle.cachePolicy.exists_forwardCookies? request.headers
  have hsent : e.originRequest? request = some { request with
      uri := ⟨some "http", some e.origin, request.uri.path,
        e.bundle.cachePolicy.forwardedQuery? request.uri.query⟩
      headers } := by
    rw [originRequest?, pathAndQuery?_forwarded huri, hheaders]
    rfl
  exact ⟨_, hsent, rfl, rfl, rfl, rfl, hreplaced, rfl, rfl, rfl⟩

/-- A query right behind the authority, a path put in front of it, and two lines of cookies, one of
them unreadable. -/
theorem sends_replaced_path : ∃ (e : Emulator) (read : Uri) (request sent : Request),
    Uri.ofText? "http://edge.test?utm_source=x&&lang=en" = some read ∧ read.CanHold "/" ∧
    read.withPath? "/docs/index.html" = some request.uri ∧ request.uri.CanHold "/docs/index.html" ∧
    (request.headers.values .cookie).map HeaderValue.readable? =
      [none, some "theme=dark; session=abc"] ∧
    e.originRequest? request = some sent ∧ e.IsSentFor request sent ∧
    sent.uri.text = "http://127.0.0.1:3000/docs/index.html?lang=en" ∧
    (sent.headers.values .cookie).map HeaderValue.readable? = [some "session=abc"] := by
  let value (text : String) (legal : (Utf8.encode text).all isHeaderByte = true) : HeaderValue :=
    ⟨_, legal⟩
  let e : Emulator := {
    bundle := {
      version := 1
      request := {}
      response := { rules := [] }
      cachePolicy := {
        headers := .none
        cookies := .allowList ["session"]
        queryStrings := .allExcept ["utm_source"] } }
    origin := ⟨"127.0.0.1:3000", by decide⟩ }
  let uri (path : String) : Uri :=
    ⟨some "http", some ⟨"edge.test", by decide +kernel⟩, path, some "utm_source=x&&lang=en"⟩
  let request : Request := {
    method := ⟨"GET", by decide +kernel⟩
    uri := uri "/docs/index.html"
    headers :=
      ⟨[(.cookie, value "session=é" (by decide +kernel)),
        (.host, value "edge.test" (by decide +kernel)),
      (.cookie, value "theme=dark; session=abc" (by decide +kernel))]⟩
    body := [] }
  have hread : Uri.ofText? "http://edge.test?utm_source=x&&lang=en" = some (uri "/") := by
    decide +kernel
  have hreplaced : (uri "/").withPath? "/docs/index.html" = some request.uri := by decide +kernel
  have hheld := sends_every_request.1 _ _ hread (by decide +kernel)
  have hheld' := sends_every_request.2.1 _ _ _ (by decide +kernel) hreplaced
  obtain ⟨sent, hsent, hfor⟩ := sends_every_request.2.2 e request hheld'
  have hexplicit : e.originRequest? request = some { request with
      uri := ⟨some "http", some e.origin, "/docs/index.html", some "lang=en"⟩
      headers := ⟨[(.host, value "edge.test" (by decide +kernel)),
        (.cookie, value "session=abc" (by decide +kernel))]⟩ } := by
    decide +kernel
  obtain rfl := Option.some.inj (hsent.symm.trans hexplicit)
  exact ⟨e, _, request, _, hread, hheld, hreplaced, hheld', by decide +kernel, hsent, hfor,
    by decide +kernel, by decide +kernel⟩

end Emulator

end EdgeRouting
