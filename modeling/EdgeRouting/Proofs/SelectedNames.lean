import EdgeRouting.Proofs.ComposedPolicy

/-!
# The names that a policy selects

A composed list holds the names that were given, each at the place where it occurs first; the names
of headers are compared without regard to ASCII case. What is selected depends on the names that are
listed, and neither on their order nor on how often they are listed.
-/

namespace EdgeRouting

structure IsFirstOccurrences (given names : List String) : Prop where
  mem_iff : ∀ name, name ∈ names ↔ name ∈ given
  inOrder : names.Pairwise fun first later => given.idxOf first < given.idxOf later

theorem eraseDups_concat (given : List String) (name : String) :
    (given ++ [name]).eraseDups =
      if name ∈ given then given.eraseDups else given.eraseDups ++ [name] := by
  rw [List.eraseDups_append]
  by_cases hmem : name ∈ given <;> simp [List.removeAll, List.eraseDups_cons, hmem]

theorem isFirstOccurrences_eraseDups (given : List String) :
    IsFirstOccurrences given given.eraseDups := by
  refine ⟨fun name => List.mem_eraseDups, ?_⟩
  induction given using List.reverseRecOn with
  | nil => simp
  | append_singleton given name ih =>
    -- A further name moves no place, and it comes last unless it occurs already.
    have hplace : ∀ other ∈ given.eraseDups, (given ++ [name]).idxOf other = given.idxOf other := by
      intro other hother
      exact List.idxOf_append_of_mem (List.mem_eraseDups.1 hother)
    have hgiven : given.eraseDups.Pairwise fun first later =>
        (given ++ [name]).idxOf first < (given ++ [name]).idxOf later := by
      apply ih.imp_of_mem
      intro first later hfirst hlater hlt
      rw [hplace first hfirst, hplace later hlater]
      exact hlt
    rw [eraseDups_concat]
    split
    · exact hgiven
    · rename_i hnew
      rw [List.pairwise_append]
      refine ⟨hgiven, List.pairwise_singleton _ _, ?_⟩
      intro first hfirst later hlater
      rw [List.mem_singleton.1 hlater, hplace first hfirst, List.idxOf_append_of_notMem hnew]
      have hlt := List.idxOf_lt_length_iff.2 (List.mem_eraseDups.1 hfirst)
      omega

/-- The same character, or the same ASCII letter in the other case. -/
def SameLetter (a b : Char) : Prop :=
  a = b ∨ a.isUpper = true ∧ b.toNat = a.toNat + 32 ∨ b.isUpper = true ∧ a.toNat = b.toNat + 32

def EqualIgnoringCase (a b : String) : Prop :=
  List.Forall₂ SameLetter a.toList b.toList

theorem isUpper_iff (c : Char) : c.isUpper = true ↔ 65 ≤ c.toNat ∧ c.toNat ≤ 90 := by
  unfold Char.isUpper
  rw [decide_eq_true_iff, ge_iff_le, UInt32.le_iff_toNat_le, UInt32.le_iff_toNat_le]
  rfl

theorem toNat_toLower (c : Char) :
    c.toLower.toNat = if c.isUpper then c.toNat + 32 else c.toNat := by
  by_cases hupper : c.isUpper = true
  · have hle := ((isUpper_iff c).1 hupper).2
    have hlower : c.toLower.val = c.val + ('a'.val - 'A'.val) :=
      congrArg Char.val (dif_pos (of_decide_eq_true hupper))
    unfold Char.toNat at hle ⊢
    rw [if_pos hupper, hlower, UInt32.toNat_add]
    have hshift : ('a'.val - 'A'.val).toNat = 32 := rfl
    omega
  · rw [if_neg hupper, HeaderName.toLower_of_not_isUpper (by simpa using hupper)]

theorem sameLetter_iff {a b : Char} : SameLetter a b ↔ a.toLower = b.toLower := by
  unfold SameLetter
  rw [← Char.toNat_inj, ← Char.toNat_inj, toNat_toLower, toNat_toLower]
  by_cases ha : a.isUpper = true <;> by_cases hb : b.isUpper = true
  all_goals
    rw [isUpper_iff] at ha hb
    simp only [isUpper_iff, ha, hb]
    grind

namespace CachePolicy

theorem asciiLower_eq_iff {a b : String} : asciiLower a = asciiLower b ↔ EqualIgnoringCase a b := by
  have hletter : SameLetter = fun a b => a.toLower = b.toLower := by
    funext a b
    exact propext sameLetter_iff
  unfold EqualIgnoringCase asciiLower
  rw [String.ofList_inj, hletter, ← List.forall₂_eq_eq_eq, List.forall₂_map_left_iff,
    List.forall₂_map_right_iff]

theorem selector_eq_none_iff {names : List String} : selector names = .none ↔ names = [] := by
  cases names with
  | nil => simp [selector]
  | cons name names => simp [selector]

theorem querySelector_eq_none_iff {allow deny : List String} :
    querySelector allow deny = .none ↔ allow = [] ∧ deny = [] := by
  cases allow with
  | nil => cases deny <;> simp [querySelector]
  | cons name allow => simp [querySelector]

theorem includes_selector (names : List String) (name : String) :
    (selector names).includes name = true ↔ name ∈ names := by
  cases names with
  | nil => simp [selector, Selector.includes]
  | cons first names =>
    rw [← List.mem_eraseDups]
    exact List.contains_iff_mem

theorem includes_querySelector (allow deny : List String) (name : String) :
    (querySelector allow deny).includes name = true ↔
      if allow ≠ [] then name ∈ allow else deny ≠ [] ∧ name ∉ deny := by
  cases allow with
  | cons first allow =>
    rw [if_pos (List.cons_ne_nil _ _), ← List.mem_eraseDups]
    exact List.contains_iff_mem
  | nil =>
    rw [if_neg (not_not.2 rfl)]
    cases deny with
    | nil => simp [querySelector, QuerySelector.includes]
    | cons first deny =>
      rw [← List.mem_eraseDups (l := first :: deny)]
      simp [querySelector, QuerySelector.includes]

end CachePolicy

namespace CacheDescriptor

/-- Descriptors that include the same names give a request the same key, and the same query and
cookies to forward. -/
theorem applied_congr {d other : CacheDescriptor}
    (hheaders : ∀ name : HeaderName,
      d.headers.includes name.text = other.headers.includes name.text)
    (hcookies : ∀ name, d.cookies.includes name = other.cookies.includes name)
    (hquery : ∀ name, d.queryStrings.includes name = other.queryStrings.includes name) :
    (∀ request, d.cacheKey request = other.cacheKey request) ∧
    (∀ query, d.forwardedQuery? query = other.forwardedQuery? query) ∧
    ∀ headers, d.forwardedCookies? headers = other.forwardedCookies? headers := by
  have hheaders' : d.selectedHeaders = other.selectedHeaders := by
    funext headers
    simp only [selectedHeaders, hheaders]
  have hcookies' : d.selectedCookies = other.selectedCookies := by
    funext headers
    simp only [selectedCookies, hcookies]
  have hquery' : d.selectedQuery = other.selectedQuery := by
    funext query
    simp only [selectedQuery, hquery]
  refine ⟨?_, ?_, ?_⟩
  · intro request
    unfold cacheKey
    rw [hheaders', hcookies', hquery']
  · intro query
    unfold forwardedQuery?
    rw [hquery']
  · intro headers
    unfold forwardedCookies?
    rw [hcookies']

end CacheDescriptor

namespace CachePolicy

variable {policy other : CachePolicy}

theorem includes_header (policy : CachePolicy) (name : String) :
    policy.descriptor.headers.includes (asciiLower name) = true ↔
      ∃ entry ∈ policy.allowHeaders, EqualIgnoringCase entry name := by
  unfold descriptor headerNames
  rw [includes_selector, List.mem_map]
  simp only [asciiLower_eq_iff]

/-- The lists of two policies hold the same names, in whatever order and however often; the case of
a header name does not count. -/
structure SameNames (policy other : CachePolicy) : Prop where
  allowHeaders : ∀ name, (∃ entry ∈ policy.allowHeaders, EqualIgnoringCase entry name) ↔
    ∃ entry ∈ other.allowHeaders, EqualIgnoringCase entry name
  allowCookies : ∀ name, name ∈ policy.allowCookies ↔ name ∈ other.allowCookies
  allowQueryParams : ∀ name, name ∈ policy.allowQueryParams ↔ name ∈ other.allowQueryParams
  denyQueryParams : ∀ name, name ∈ policy.denyQueryParams ↔ name ∈ other.denyQueryParams

theorem SameNames.applied_eq (h : SameNames policy other) :
    (∀ request, policy.descriptor.cacheKey request = other.descriptor.cacheKey request) ∧
    (∀ query, policy.descriptor.forwardedQuery? query = other.descriptor.forwardedQuery? query) ∧
    ∀ headers,
      policy.descriptor.forwardedCookies? headers = other.descriptor.forwardedCookies? headers := by
  have hnil {names names' : List String} (h : ∀ name, name ∈ names ↔ name ∈ names') :
      names = [] ↔ names' = [] := by
    simp only [List.eq_nil_iff_forall_not_mem, h]
  apply CacheDescriptor.applied_congr
  · intro name
    rw [Bool.eq_iff_iff, ← asciiLower_eq_self name.isLowerCase_text, includes_header,
      includes_header]
    exact h.allowHeaders name.text
  · intro name
    rw [Bool.eq_iff_iff]
    unfold descriptor
    rw [includes_selector, includes_selector]
    exact h.allowCookies name
  · intro name
    rw [Bool.eq_iff_iff]
    unfold descriptor
    rw [includes_querySelector, includes_querySelector]
    simp only [ne_eq, hnil h.allowQueryParams, hnil h.denyQueryParams, h.allowQueryParams,
      h.denyQueryParams]

theorem isListing_of_selector {given names : List String} (h : selector given = .allowList names) :
    IsListing names ∧ IsFirstOccurrences given names := by
  have hcomposed := isComposed_selector given
  rw [h] at hcomposed
  unfold selector at h
  split at h
  · cases h
  · cases h
    exact ⟨hcomposed, isFirstOccurrences_eraseDups given⟩

theorem isListing_of_allowList {allow deny : List String}
    (h : querySelector allow deny = .allowList names) :
    IsListing names ∧ IsFirstOccurrences allow names := by
  have hcomposed := isComposed_querySelector allow deny
  rw [h] at hcomposed
  unfold querySelector at h
  split_ifs at h
  cases h
  exact ⟨hcomposed, isFirstOccurrences_eraseDups allow⟩

theorem isListing_of_allExcept {allow deny : List String}
    (h : querySelector allow deny = .allExcept names) :
    allow = [] ∧ IsListing names ∧ IsFirstOccurrences deny names := by
  have hcomposed := isComposed_querySelector allow deny
  rw [h] at hcomposed
  unfold querySelector at h
  split_ifs at h with hallow
  cases h
  exact ⟨by simpa using hallow, hcomposed, isFirstOccurrences_eraseDups deny⟩

/-- A descriptor as a policy leaves it: a selector for each list that is not empty, with the
distinct names of the list in the order in which they occur first. -/
structure IsNormalForm (policy : CachePolicy) (d : CacheDescriptor) : Prop where
  noHeaders : d.headers = .none ↔ policy.allowHeaders = []
  noCookies : d.cookies = .none ↔ policy.allowCookies = []
  noParameters : d.queryStrings = .none ↔ policy.allowQueryParams = [] ∧ policy.denyQueryParams = []
  headers : ∀ names, d.headers = .allowList names →
    IsListing names ∧ IsFirstOccurrences (policy.allowHeaders.map asciiLower) names
  cookies : ∀ names, d.cookies = .allowList names →
    IsListing names ∧ IsFirstOccurrences policy.allowCookies names
  parameters : ∀ names, d.queryStrings = .allowList names →
    IsListing names ∧ IsFirstOccurrences policy.allowQueryParams names
  exceptions : ∀ names, d.queryStrings = .allExcept names →
    policy.allowQueryParams = [] ∧ IsListing names ∧ IsFirstOccurrences policy.denyQueryParams names

/-- A descriptor includes what a policy says: the allowed names, and where no query parameter is
allowed, all but the denied ones. -/
structure Selects (policy : CachePolicy) (d : CacheDescriptor) : Prop where
  header : ∀ name, d.headers.includes (asciiLower name) = true ↔
    ∃ entry ∈ policy.allowHeaders, EqualIgnoringCase entry name
  cookie : ∀ name, d.cookies.includes name = true ↔ name ∈ policy.allowCookies
  parameter : ∀ name, d.queryStrings.includes name = true ↔
    if policy.allowQueryParams ≠ [] then name ∈ policy.allowQueryParams
    else policy.denyQueryParams ≠ [] ∧ name ∉ policy.denyQueryParams

theorem isNormalForm_descriptor (policy : CachePolicy) : policy.IsNormalForm policy.descriptor where
  noHeaders := by
    unfold descriptor headerNames
    rw [selector_eq_none_iff, List.map_eq_nil_iff]
  noCookies := selector_eq_none_iff
  noParameters := querySelector_eq_none_iff
  headers _ h := isListing_of_selector h
  cookies _ h := isListing_of_selector h
  parameters _ h := isListing_of_allowList h
  exceptions _ h := isListing_of_allExcept h

theorem selects_descriptor (policy : CachePolicy) : policy.Selects policy.descriptor where
  header := includes_header policy
  cookie := includes_selector policy.allowCookies
  parameter := includes_querySelector policy.allowQueryParams policy.denyQueryParams

/-- What a policy is composed to and what that means for requests: the lists are in normal form,
they include what the policy says, and policies that name the same names are not told apart by any
request. -/
theorem composes_normal_form (policy : CachePolicy) :
    policy.IsNormalForm policy.descriptor ∧ policy.Selects policy.descriptor ∧
    ∀ other : CachePolicy, policy.SameNames other →
      (∀ request, policy.descriptor.cacheKey request = other.descriptor.cacheKey request) ∧
      (∀ query, policy.descriptor.forwardedQuery? query = other.descriptor.forwardedQuery? query) ∧
      ∀ headers,
        policy.descriptor.forwardedCookies? headers = other.descriptor.forwardedCookies? headers :=
  ⟨isNormalForm_descriptor policy, selects_descriptor policy, fun _ h => h.applied_eq⟩

/-- Names in another order, in another case and repeated. -/
theorem composes_shuffled_names : ∃ policy other : CachePolicy,
    policy.allowHeaders = ["Accept", "X-Tag", "accept"] ∧ other.allowHeaders = ["x-tAG", "ACCEPT"] ∧
    policy.denyQueryParams = ["utm", "ref", "utm"] ∧ other.denyQueryParams = ["ref", "utm"] ∧
    policy.descriptor.headers = .allowList ["accept", "x-tag"] ∧
    policy.descriptor.queryStrings = .allExcept ["utm", "ref"] ∧
    IsFirstOccurrences ["accept", "x-tag", "accept"] ["accept", "x-tag"] ∧
    policy.descriptor.headers.includes (asciiLower "aCCept") = true ∧
    ∀ request, policy.descriptor.cacheKey request = other.descriptor.cacheKey request := by
  let policy : CachePolicy :=
    { allowHeaders := ["Accept", "X-Tag", "accept"], denyQueryParams := ["utm", "ref", "utm"] }
  let other : CachePolicy :=
    { allowHeaders := ["x-tAG", "ACCEPT"], denyQueryParams := ["ref", "utm"] }
  have hsame : policy.SameNames other := by
    refine ⟨fun name => ?_, fun _ => Iff.rfl, fun _ => Iff.rfl, fun name => ?_⟩
    · have haccept : asciiLower "ACCEPT" = asciiLower "Accept" ∧
          asciiLower "accept" = asciiLower "Accept" := by
        decide +kernel
      have htag : asciiLower "x-tAG" = asciiLower "X-Tag" := by decide +kernel
      simp only [← asciiLower_eq_iff]
      simp [policy, other, haccept, htag, or_comm]
    · simp only [policy, other, List.mem_cons, List.not_mem_nil, or_false]
      tauto
  have hheaders : policy.descriptor.headers = .allowList ["accept", "x-tag"] := by decide +kernel
  obtain ⟨hnormal, hselects, hany⟩ := composes_normal_form policy
  obtain ⟨hkey, -, -⟩ := hany other hsame
  refine ⟨policy, other, rfl, rfl, rfl, rfl, hheaders, by decide +kernel, ?_, ?_, hkey⟩
  · exact (hnormal.headers _ hheaders).2
  · exact (hselects.header "aCCept").2 ⟨"Accept", by simp [policy],
      asciiLower_eq_iff.1 (by decide +kernel)⟩

end CachePolicy

end EdgeRouting
