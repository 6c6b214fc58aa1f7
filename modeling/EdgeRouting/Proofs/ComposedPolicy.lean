import EdgeRouting.Proofs.BundleRoundTrip
import EdgeRouting.Proofs.KeyedParts

/-!
# Policies that are composed and policies that are loaded

A descriptor can be composed if and only if each of its lists is what an allow or deny list leaves:
some names, each once, and those of headers in lower case. A policy that was built is of this kind.
The loader takes selectors as they are written, so a bundle is loaded with any policy in place of
its own, and a header that is listed with a capital letter is not keyed at all.
-/

namespace EdgeRouting

open Accepted

theorem eraseDups_eq_self {α : Type} [BEq α] [LawfulBEq α] {items : List α} (h : items.Nodup) :
    items.eraseDups = items := by
  induction items with
  | nil => rfl
  | cons a items ih =>
    rw [List.nodup_cons] at h
    have hkept : items.filter (fun b => !b == a) = items := by
      rw [List.filter_eq_self]
      intro b hb
      have hne : b ≠ a := fun heq => h.1 (heq ▸ hb)
      simp [hne]
    rw [List.eraseDups_cons, hkept, ih h.2]

structure IsListing (names : List String) : Prop where
  ne_nil : names ≠ []
  nodup : names.Nodup

theorem isListing_eraseDups {names : List String} (h : names ≠ []) : IsListing names.eraseDups := by
  refine ⟨?_, nodup_eraseDups names⟩
  obtain ⟨name, hname⟩ := List.exists_mem_of_ne_nil names h
  exact List.ne_nil_of_mem (List.mem_eraseDups.2 hname)

def IsLowerCase (name : String) : Prop :=
  ∀ c ∈ name.toList, c.isUpper = false

theorem isUpper_toLower (c : Char) : c.toLower.isUpper = false := by
  cases h : c.isUpper with
  | false => rw [HeaderName.toLower_of_not_isUpper h, h]
  | true =>
    have hle : c.toNat ≤ 'Z'.toNat := (of_decide_eq_true h).2
    have hlt : c.toNat < 128 := Nat.lt_of_le_of_lt hle (by decide)
    have hsmall : ∀ n < 128, (Char.ofNat n).toLower.isUpper = false := by decide
    rw [← Char.ofNat_toNat c]
    exact hsmall c.toNat hlt

namespace CachePolicy

theorem isLowerCase_asciiLower (name : String) : IsLowerCase (asciiLower name) := by
  intro c hc
  rw [asciiLower, String.toList_ofList] at hc
  obtain ⟨b, -, rfl⟩ := List.mem_map.1 hc
  exact isUpper_toLower b

theorem asciiLower_eq_self {name : String} (h : IsLowerCase name) : asciiLower name = name := by
  have hmap : name.toList.map Char.toLower = name.toList.map id :=
    List.map_congr_left fun c hc => HeaderName.toLower_of_not_isUpper (h c hc)
  rw [asciiLower, hmap, List.map_id, String.ofList_toList]

end CachePolicy

theorem HeaderName.isLowerCase_text (name : HeaderName) : IsLowerCase name.text := by
  intro c hc
  have hlegal := name.legal
  simp only [isHeaderName, Bool.and_eq_true, List.all_eq_true, Bool.not_eq_true'] at hlegal
  exact (hlegal.2 c hc).2

namespace Selector

def names : Selector → List String
  | .none => []
  | .allowList names => names

def IsComposed : Selector → Prop
  | .none => True
  | .allowList names => IsListing names

end Selector

namespace QuerySelector

def allowed : QuerySelector → List String
  | .allowList names => names
  | _ => []

def denied : QuerySelector → List String
  | .allExcept names => names
  | _ => []

def IsComposed : QuerySelector → Prop
  | .none => True
  | .allowList names | .allExcept names => IsListing names

end QuerySelector

namespace CachePolicy

theorem isComposed_selector (names : List String) : (selector names).IsComposed := by
  unfold selector
  split
  · trivial
  · rename_i hnames
    exact isListing_eraseDups (by simpa using hnames)

theorem mem_of_mem_selector {names : List String} {name : String}
    (h : name ∈ (selector names).names) : name ∈ names := by
  unfold selector at h
  split at h
  · cases h
  · exact List.mem_eraseDups.1 h

theorem selector_names {s : Selector} (h : s.IsComposed) : selector s.names = s := by
  cases s with
  | none => rfl
  | allowList names =>
    have hne : names.isEmpty = false := by simpa using h.ne_nil
    rw [Selector.names, selector, hne, eraseDups_eq_self h.nodup]
    rfl

theorem isComposed_querySelector (allow deny : List String) :
    (querySelector allow deny).IsComposed := by
  unfold querySelector
  split
  · rename_i hallow
    exact isListing_eraseDups (by simpa using hallow)
  · split
    · rename_i hdeny
      exact isListing_eraseDups (by simpa using hdeny)
    · trivial

theorem querySelector_names {s : QuerySelector} (h : s.IsComposed) :
    querySelector s.allowed s.denied = s := by
  cases s with
  | none => rfl
  | allowList names =>
    have hne : names.isEmpty = false := by simpa using h.ne_nil
    rw [QuerySelector.allowed, querySelector, hne, eraseDups_eq_self h.nodup]
    rfl
  | allExcept names =>
    have hne : names.isEmpty = false := by simpa using h.ne_nil
    have hallowed : (QuerySelector.allExcept names).allowed = [] := rfl
    rw [hallowed, QuerySelector.denied, querySelector, hne, eraseDups_eq_self h.nodup]
    rfl

end CachePolicy

namespace CacheDescriptor

/-- The lists of a descriptor are lists that a policy can leave. -/
structure IsComposed (d : CacheDescriptor) : Prop where
  headers : d.headers.IsComposed
  lowerCase : ∀ name ∈ d.headers.names, IsLowerCase name
  cookies : d.cookies.IsComposed
  queryStrings : d.queryStrings.IsComposed

theorem isComposed_descriptor (policy : CachePolicy) : policy.descriptor.IsComposed where
  headers := CachePolicy.isComposed_selector policy.headerNames
  lowerCase name hname := by
    have hmem := CachePolicy.mem_of_mem_selector hname
    obtain ⟨given, -, rfl⟩ := List.mem_map.1 hmem
    exact CachePolicy.isLowerCase_asciiLower given
  cookies := CachePolicy.isComposed_selector policy.allowCookies
  queryStrings := CachePolicy.isComposed_querySelector _ _

/-- The policy that says no more than a descriptor does. -/
def policy (d : CacheDescriptor) : CachePolicy where
  allowHeaders := d.headers.names
  allowCookies := d.cookies.names
  allowQueryParams := d.queryStrings.allowed
  denyQueryParams := d.queryStrings.denied

theorem IsComposed.headerNames_policy {d : CacheDescriptor} (h : d.IsComposed) :
    d.policy.headerNames = d.headers.names := by
  have hmap : d.headers.names.map CachePolicy.asciiLower = d.headers.names.map id :=
    List.map_congr_left fun name hname => CachePolicy.asciiLower_eq_self (h.lowerCase name hname)
  rw [List.map_id] at hmap
  exact hmap

theorem IsComposed.descriptor_policy {d : CacheDescriptor} (h : d.IsComposed) :
    d.policy.descriptor = d := by
  rw [CachePolicy.descriptor, h.headerNames_policy, CachePolicy.selector_names h.headers]
  rw [policy, CachePolicy.selector_names h.cookies, CachePolicy.querySelector_names h.queryStrings]

theorem exists_policy_iff {d : CacheDescriptor} :
    (∃ policy : CachePolicy, policy.descriptor = d) ↔ d.IsComposed := by
  constructor
  · rintro ⟨policy, rfl⟩
    exact isComposed_descriptor policy
  · intro h
    exact ⟨d.policy, h.descriptor_policy⟩

end CacheDescriptor

/-- A header that is listed with a capital letter is not found in any request. -/
theorem CacheDescriptor.selectedHeaders_eq_nil {d : CacheDescriptor}
    (h : ∀ name ∈ d.headers.names, ¬ IsLowerCase name) (headers : HeaderMap) :
    d.selectedHeaders headers = [] := by
  rw [selectedHeaders, List.filter_eq_nil_iff]
  intro header _ hincludes
  cases hselector : d.headers with
  | none =>
    rw [hselector] at hincludes
    cases hincludes
  | allowList names =>
    rw [hselector] at h hincludes
    exact h header.text (List.contains_iff_mem.1 hincludes) header.isLowerCase_text

namespace Bundle

/-- The loader does not look at the policy. -/
theorem IsCompiled.withPolicy {bundle : Bundle} (h : bundle.IsCompiled) (d : CacheDescriptor) :
    IsCompiled { bundle with cachePolicy := d } :=
  ⟨h.version, h.request, h.response⟩

/-- A loaded policy is one that can be composed exactly if its lists are such, as they are in the
text of a bundle that was built. But a bundle is loaded with any policy in place of its own. -/
theorem loads_any_policy {text : String} {bundle : Bundle} (h : Bundle.load text = .ok bundle) :
    ((∃ policy : CachePolicy, policy.descriptor = bundle.cachePolicy) ↔
      bundle.cachePolicy.IsComposed) ∧
    (∀ config build, Config.build config = .ok build → build.bundle.write = text →
      bundle.cachePolicy.IsComposed) ∧
    ∀ d : CacheDescriptor,
      Bundle.load { bundle with cachePolicy := d }.write =
        .ok { bundle with cachePolicy := d } := by
  have hcompiled := isCompiled_of_load h
  refine ⟨CacheDescriptor.exists_policy_iff, ?_, fun d => (hcompiled.withPolicy d).load_write⟩
  rintro config build hbuild rfl
  rw [(isCompiled_of_build hbuild).load_write] at h
  cases h
  simp only [Config.build, bind_eq_ok_iff] at hbuild
  obtain ⟨request, -, response, -, heq⟩ := hbuild
  cases heq
  exact CacheDescriptor.isComposed_descriptor config.cachePolicy

/-- A list with a repeated cookie in place of the policy of a bundle that was built. -/
theorem loads_repeated_cookie : ∃ (build : Build) (d : CacheDescriptor),
    Config.build { cachePolicy := { allowHeaders := ["Accept", "accept"] } } = .ok build ∧
    Bundle.load build.bundle.write = .ok build.bundle ∧
    build.bundle.cachePolicy.headers = .allowList ["accept"] ∧
    build.bundle.cachePolicy.IsComposed ∧ d.cookies = .allowList ["id", "id"] ∧
    Bundle.load { build.bundle with cachePolicy := d }.write =
      .ok { build.bundle with cachePolicy := d } ∧
    ∀ policy : CachePolicy, policy.descriptor ≠ d := by
  let config : Config := { cachePolicy := { allowHeaders := ["Accept", "accept"] } }
  let build : Build := {
    bundle := {
      version := 1
      request := {}
      response := { rules := HeaderRule.builtIn {} }
      cachePolicy := { headers := .allowList ["accept"] } }
    diagnostics := [.duplicateEntry .allowHeaders "accept"] }
  have hbuild : Config.build config = .ok build := by decide +kernel
  have hload := (isCompiled_of_build hbuild).load_write
  obtain ⟨-, hcomposed, hany⟩ := loads_any_policy hload
  refine ⟨build, { cookies := .allowList ["id", "id"] }, hbuild, hload, rfl,
    hcomposed config build hbuild rfl, rfl, hany _, ?_⟩
  intro policy hpolicy
  have hlisting : IsListing ["id", "id"] :=
    (CacheDescriptor.exists_policy_iff.1 ⟨policy, hpolicy⟩).cookies
  exact absurd hlisting.nodup (by decide)

/-- A header that is listed with a capital letter, and so is not keyed. -/
theorem loads_capital_header : ∃ bundle,
    Bundle.load
      "[1,[[],[],true],[],[[\"allowList\",[\"Accept\"]],[\"none\",null],[\"none\",null]]]" =
        .ok bundle ∧
    bundle.cachePolicy.headers = .allowList ["Accept"] ∧
    (∀ policy : CachePolicy, policy.descriptor ≠ bundle.cachePolicy) ∧
    ∀ headers, bundle.cachePolicy.selectedHeaders headers = [] := by
  have hcapital : ∀ name ∈ ["Accept"], ¬ IsLowerCase name := by
    intro name hname
    cases List.mem_singleton.1 hname
    exact fun h => absurd (h 'A' (by decide)) (by decide)
  let bundle : Bundle :=
    { version := 1, request := {}, response := {},
      cachePolicy := { headers := .allowList ["Accept"] } }
  refine ⟨bundle, by decide +kernel, rfl, ?_, CacheDescriptor.selectedHeaders_eq_nil hcapital⟩
  intro policy hpolicy
  have hlower := (CacheDescriptor.exists_policy_iff.1 ⟨policy, hpolicy⟩).lowerCase
  exact hcapital "Accept" List.mem_cons_self (hlower "Accept" List.mem_cons_self)

end Bundle

end EdgeRouting
