import EdgeRouting.Proofs.SelectedNames

/-!
# What is reported of a policy

Every entry of a policy is kept or reported: an entry that equals an earlier one of its list is
reported once, and a deny list that has no effect is reported as a whole. A composed policy, read
back, has nothing to report.
-/

namespace EdgeRouting

def PolicyList.inOrder : List PolicyList :=
  [.allowHeaders, .allowCookies, .allowQueryParams, .denyQueryParams]

def Diagnostic.list? : Diagnostic → Option PolicyList
  | .duplicateEntry list _ => some list
  | .queryDenyListIgnored _ => none

namespace CachePolicy

/-- The entries of a list as they are compared: the names of headers in lower case. -/
def entries (policy : CachePolicy) : PolicyList → List String
  | .allowHeaders => policy.headerNames
  | .allowCookies => policy.allowCookies
  | .allowQueryParams => policy.allowQueryParams
  | .denyQueryParams => policy.denyQueryParams

def kept (policy : CachePolicy) (list : PolicyList) : List String :=
  (policy.entries list).eraseDups

/-- The entries before whose place an equal entry stands. -/
def repeated (names : List String) : List String :=
  (names.zipIdx.filter fun (name, place) => name ∈ names.take place).map Prod.fst

theorem repeated_concat (names : List String) (name : String) :
    repeated (names ++ [name]) = repeated names ++ if name ∈ names then [name] else [] := by
  have hplace : ∀ entry ∈ names.zipIdx,
      decide (entry.1 ∈ (names ++ [name]).take entry.2) =
        decide (entry.1 ∈ names.take entry.2) := by
    intro entry hentry
    have hlt := (List.mem_zipIdx' hentry).1
    rw [List.take_append_of_le_length (Nat.le_of_lt hlt)]
  unfold repeated
  rw [List.zipIdx_append, List.filter_append, List.map_append, List.filter_congr hplace]
  congr 1
  by_cases hmem : name ∈ names <;> simp [hmem]

theorem repeatsFrom_concat (seen names : List String) (name : String) :
    repeatsFrom seen (names ++ [name]) =
      repeatsFrom seen names ++ if name ∈ seen ∨ name ∈ names then [name] else [] := by
  induction names generalizing seen with
  | nil => simp [repeatsFrom]
  | cons first names ih =>
    rw [List.cons_append, repeatsFrom, repeatsFrom, ih, ih]
    by_cases hseen : first ∈ seen
    · have hiff : name ∈ seen ∨ name ∈ names ↔ name ∈ seen ∨ name ∈ first :: names := by grind
      simp only [if_pos hseen, hiff, List.cons_append]
    · have hiff : name ∈ first :: seen ∨ name ∈ names ↔
          name ∈ seen ∨ name ∈ first :: names := by grind
      simp only [if_neg hseen, hiff]

theorem repeatsFrom_nil (names : List String) : repeatsFrom [] names = repeated names := by
  induction names using List.reverseRecOn with
  | nil => rfl
  | append_singleton names name ih => simp [repeatsFrom_concat, repeated_concat, ih]

theorem length_eq_kept_add_repeated (names : List String) :
    names.length = names.eraseDups.length + (repeated names).length := by
  induction names using List.reverseRecOn with
  | nil => rfl
  | append_singleton names name ih =>
    rw [List.length_append, eraseDups_concat, repeated_concat, List.length_append, ih]
    by_cases hmem : name ∈ names
    · simp only [if_pos hmem, List.length_singleton]
      omega
    · simp only [if_neg hmem, List.length_append, List.length_singleton, List.length_nil]
      omega

theorem repeated_of_nodup {names : List String} (h : names.Nodup) : repeated names = [] := by
  have hlength := length_eq_kept_add_repeated names
  rw [eraseDups_eq_self h] at hlength
  exact List.length_eq_zero_iff.1 (by omega)

theorem diagnostics_eq (policy : CachePolicy) :
    policy.diagnostics =
      (PolicyList.inOrder.flatMap fun list => (repeated (policy.entries list)).map
        (.duplicateEntry list)) ++
        if policy.allowQueryParams ≠ [] ∧ policy.denyQueryParams ≠ []
          then [.queryDenyListIgnored (policy.kept .denyQueryParams)] else [] := by
  simp [diagnostics, repeats, repeatsFrom_nil, PolicyList.inOrder, entries, kept]

theorem countP_duplicateEntry (list other : PolicyList) (names : List String) :
    (names.map (Diagnostic.duplicateEntry other)).countP (fun d => d.list? = some list) =
      if other = list then names.length else 0 := by
  by_cases h : other = list <;> simp [List.countP_map, Diagnostic.list?, h, Function.comp_def]

theorem countP_diagnostics (policy : CachePolicy) (list : PolicyList) :
    policy.diagnostics.countP (fun d => d.list? = some list) =
      (repeated (policy.entries list)).length := by
  have hignored (names : List String) (given : Prop) [Decidable given] :
      (if given then [Diagnostic.queryDenyListIgnored names] else []).countP
        (fun d => d.list? = some list) = 0 := by
    split <;> rfl
  rw [diagnostics_eq, List.countP_append, hignored, PolicyList.inOrder]
  simp only [List.flatMap_cons, List.flatMap_nil, List.countP_append, countP_duplicateEntry]
  cases list <;> simp

theorem nodup_of_isComposed {s : Selector} (h : s.IsComposed) : s.names.Nodup := by
  cases s with
  | none => exact List.nodup_nil
  | allowList names => exact h.nodup

theorem nodup_of_isComposed_query {s : QuerySelector} (h : s.IsComposed) :
    s.allowed.Nodup ∧ s.denied.Nodup ∧ (s.allowed = [] ∨ s.denied = []) := by
  cases s with
  | none => exact ⟨List.nodup_nil, List.nodup_nil, .inl rfl⟩
  | allowList names => exact ⟨h.nodup, List.nodup_nil, .inr rfl⟩
  | allExcept names => exact ⟨List.nodup_nil, h.nodup, .inl rfl⟩

theorem diagnostics_of_isComposed {d : CacheDescriptor} (h : d.IsComposed) :
    d.policy.diagnostics = [] := by
  obtain ⟨hallowed, hdenied, hone⟩ := nodup_of_isComposed_query h.queryStrings
  have hentries : ∀ list, (d.policy.entries list).Nodup := by
    intro list
    cases list with
    | allowHeaders =>
      unfold entries
      rw [h.headerNames_policy]
      exact nodup_of_isComposed h.headers
    | allowCookies => exact nodup_of_isComposed h.cookies
    | allowQueryParams => exact hallowed
    | denyQueryParams => exact hdenied
  have hboth : ¬ (d.policy.allowQueryParams ≠ [] ∧ d.policy.denyQueryParams ≠ []) := by
    rintro ⟨hallow, hdeny⟩
    exact hone.elim hallow hdeny
  rw [diagnostics_eq, if_neg hboth, List.append_nil, List.flatMap_eq_nil_iff]
  intro list _
  rw [repeated_of_nodup (hentries list)]
  rfl

theorem names_selector (given : List String) : (selector given).names = given.eraseDups := by
  cases given <;> rfl

theorem allowed_querySelector (allow deny : List String) :
    (querySelector allow deny).allowed = allow.eraseDups := by
  cases allow with
  | nil => cases deny <;> rfl
  | cons name allow => rfl

theorem denied_querySelector (allow deny : List String) :
    (querySelector allow deny).denied = if allow = [] then deny.eraseDups else [] := by
  cases allow with
  | nil => cases deny <;> rfl
  | cons name allow => rfl

/-- What becomes of the entries of a policy. The findings are one for each entry that repeats an
earlier one, list by list, and one for a deny list beside an allow list; every entry is kept or
counted among them. What is kept is what the descriptor lists, and the descriptor, read as a policy,
is composed to itself without a finding. -/
theorem diagnostics_account (policy : CachePolicy) :
    policy.diagnostics =
      (PolicyList.inOrder.flatMap fun list => (repeated (policy.entries list)).map
        (.duplicateEntry list)) ++
        (if policy.allowQueryParams ≠ [] ∧ policy.denyQueryParams ≠ []
          then [.queryDenyListIgnored (policy.kept .denyQueryParams)] else []) ∧
    (∀ list, IsFirstOccurrences (policy.entries list) (policy.kept list) ∧
      (policy.entries list).length =
        (policy.kept list).length + policy.diagnostics.countP fun d => d.list? = some list) ∧
    policy.descriptor.headers.names = policy.kept .allowHeaders ∧
    policy.descriptor.cookies.names = policy.kept .allowCookies ∧
    policy.descriptor.queryStrings.allowed = policy.kept .allowQueryParams ∧
    policy.descriptor.queryStrings.denied =
      (if policy.allowQueryParams = [] then policy.kept .denyQueryParams else []) ∧
    policy.descriptor.policy.descriptor = policy.descriptor ∧
    policy.descriptor.policy.diagnostics = [] := by
  have hcomposed := CacheDescriptor.isComposed_descriptor policy
  refine ⟨diagnostics_eq policy, ?_, names_selector _, names_selector _, allowed_querySelector _ _,
    denied_querySelector _ _, hcomposed.descriptor_policy, diagnostics_of_isComposed hcomposed⟩
  intro list
  refine ⟨isFirstOccurrences_eraseDups _, ?_⟩
  rw [countP_diagnostics]
  exact length_eq_kept_add_repeated _

/-- A cookie given three times is reported twice, a denied parameter before the deny list that is
ignored. -/
example : diagnostics {
    allowHeaders := ["Accept", "accept"]
    allowCookies := ["id", "id", "tab", "id"]
    allowQueryParams := ["q"]
    denyQueryParams := ["ref", "utm", "ref"] } =
    [.duplicateEntry .allowHeaders "accept", .duplicateEntry .allowCookies "id",
      .duplicateEntry .allowCookies "id", .duplicateEntry .denyQueryParams "ref",
      .queryDenyListIgnored ["ref", "utm"]] := by decide +kernel

end CachePolicy

end EdgeRouting
