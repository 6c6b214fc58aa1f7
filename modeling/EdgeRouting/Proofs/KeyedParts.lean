import EdgeRouting.CacheKey.Key
import EdgeRouting.Proofs.HeaderText
import Mathlib.Data.List.Infix
import Mathlib.Data.List.Perm.Basic

/-!
# What a cache key is made of

The headers, cookies and query parameters that a policy selects, and `SameKeyed`, which says that
two requests agree on all of them. Requests that agree have the same key, since each kind is sorted
before it is written. So nothing that is not selected shows in the key, and neither does the order
in which things were sent.
-/

namespace EdgeRouting

theorem nodup_eraseDups {α : Type} [BEq α] [LawfulBEq α] (items : List α) :
    items.eraseDups.Nodup := by
  induction h : items.length using Nat.strongRecOn generalizing items with
  | ind n ih =>
    cases items with
    | nil => simp
    | cons a items =>
      rw [List.eraseDups_cons, List.nodup_cons]
      have hlength : (items.filter fun b => !b == a).length < n := by
        have hle := List.length_filter_le (fun b => !b == a) items
        rw [List.length_cons] at h
        omega
      refine ⟨?_, ih _ hlength _ rfl⟩
      rw [List.mem_eraseDups, List.mem_filter]
      simp

theorem notMem_of_mem_splitOn {separator : Char} {text piece : List Char}
    (h : piece ∈ text.splitOn separator) : separator ∉ piece := by
  induction text generalizing piece with
  | nil =>
    rw [List.splitOn_nil, List.mem_singleton] at h
    simp [h]
  | cons c text ih =>
    rw [List.splitOn_cons_eq_if_modifyHead] at h
    obtain ⟨first, rest, hsplit⟩ := List.exists_cons_of_ne_nil (List.splitOn_ne_nil separator text)
    rw [hsplit] at h ih
    split at h
    · rcases List.mem_cons.1 h with rfl | h
      · exact List.not_mem_nil
      · exact ih h
    · rename_i hc
      rw [List.modifyHead_cons] at h
      rcases List.mem_cons.1 h with rfl | h
      · rw [List.mem_cons, not_or]
        exact ⟨fun heq => hc (beq_iff_eq.2 heq.symm), ih List.mem_cons_self⟩
      · exact ih (List.mem_cons_of_mem _ h)

namespace HeaderMap

theorem mem_names {headers : HeaderMap} {name : HeaderName} :
    name ∈ headers.names ↔ headers.values name ≠ [] := by
  simp [names, values]

theorem nodup_names (headers : HeaderMap) : headers.names.Nodup :=
  nodup_eraseDups _

end HeaderMap

namespace Component

def parameter (text : List Char) : Component :=
  ⟨String.ofList (nameOf text), String.ofList text⟩

def cookie (text : List Char) : Component :=
  ⟨String.ofList (trim (nameOf text)), String.ofList text⟩

theorem ofQuery_eq (query : String) :
    ofQuery query = ((query.toList.splitOn '&').filter (· ≠ [])).map parameter := rfl

theorem ofCookieLine_eq (line : String) :
    ofCookieLine line = (((line.toList.splitOn ';').map trim).filter (· ≠ [])).map cookie := rfl

theorem trim_subset (text : List Char) : trim text ⊆ text := by
  intro c hc
  rw [trim, Scan.trim, List.mem_reverse] at hc
  have hc' := (List.dropWhile_suffix _).subset hc
  rw [List.mem_reverse] at hc'
  exact (List.dropWhile_suffix _).subset hc'

theorem of_mem_ofQuery {query : String} {c : Component} (h : c ∈ ofQuery query) :
    c = parameter c.text.toList ∧ '&' ∉ c.text.toList := by
  rw [ofQuery_eq, List.mem_map] at h
  obtain ⟨text, htext, rfl⟩ := h
  have hpiece := notMem_of_mem_splitOn (List.mem_filter.1 htext).1
  simpa [parameter] using hpiece

theorem of_mem_ofCookieLine {line : String} {c : Component} (h : c ∈ ofCookieLine line) :
    c = cookie c.text.toList ∧ ';' ∉ c.text.toList := by
  rw [ofCookieLine_eq, List.mem_map] at h
  obtain ⟨text, htext, rfl⟩ := h
  obtain ⟨piece, hpiece, rfl⟩ := List.mem_map.1 (List.mem_filter.1 htext).1
  have htrim : ';' ∉ trim piece := fun hmem => notMem_of_mem_splitOn hpiece (trim_subset piece hmem)
  simpa [cookie] using htrim

/-- Components that are told apart by their texts alone are permuted as their texts are. -/
theorem perm_of_texts {read : List Char → Component} {cs cs' : List Component}
    (hcs : ∀ c ∈ cs, c = read c.text.toList) (hcs' : ∀ c ∈ cs', c = read c.text.toList)
    (h : (cs.map (·.text)).Perm (cs'.map (·.text))) : cs.Perm cs' := by
  have hmap {cs : List Component} (hcs : ∀ c ∈ cs, c = read c.text.toList) :
      (cs.map (·.text)).map (fun text => read text.toList) = cs := by
    rw [List.map_map]
    exact (List.map_congr_left fun c hc => (hcs c hc).symm).trans (List.map_id cs)
  rw [← hmap hcs, ← hmap hcs']
  exact h.map _

end Component

namespace CacheDescriptor

variable {d : CacheDescriptor}

theorem mem_selectedHeaders {headers : HeaderMap} {name : HeaderName} :
    name ∈ d.selectedHeaders headers ↔
      headers.values name ≠ [] ∧ d.headers.includes name.text = true := by
  rw [selectedHeaders, List.mem_filter, HeaderMap.mem_names]

theorem of_mem_selectedQuery {query : Option String} {c : Component}
    (h : c ∈ d.selectedQuery query) :
    c = Component.parameter c.text.toList ∧ '&' ∉ c.text.toList := by
  have hmem := (List.mem_filter.1 h).1
  cases query with
  | none => cases hmem
  | some query => exact Component.of_mem_ofQuery hmem

theorem of_mem_selectedCookies {headers : HeaderMap} {c : Component}
    (h : c ∈ d.selectedCookies headers) :
    c = Component.cookie c.text.toList ∧ ';' ∉ c.text.toList := by
  obtain ⟨line, -, hline⟩ := List.mem_flatMap.1 (List.mem_filter.1 h).1
  exact Component.of_mem_ofCookieLine hline

/-- Two requests agree on all that the policy keys. -/
structure SameKeyed (d : CacheDescriptor) (a b : Request) : Prop where
  path : a.uri.path = b.uri.path
  headers : ∀ name : HeaderName, d.headers.includes name.text = true →
    a.headers.values name = b.headers.values name
  cookies : (d.selectedCookies a.headers).Perm (d.selectedCookies b.headers)
  query : (d.selectedQuery a.uri.query).Perm (d.selectedQuery b.uri.query)

def inOrder (entries : List String) : List (List Char) :=
  (entries.mergeSort fun a b => decide (a ≤ b)).map String.toList

theorem keySection_nil (tag separator : Char) : keySection tag separator [] = [] := rfl

theorem keySection_of_ne_nil {tag separator : Char} {entries : List String} (h : entries ≠ []) :
    keySection tag separator entries =
      '|' :: tag :: ':' :: [separator].intercalate (inOrder entries) := by
  rw [keySection, if_neg (by simpa using h)]
  rfl

theorem mem_inOrder {entries : List String} {text : List Char} :
    text ∈ inOrder entries ↔ ∃ entry ∈ entries, entry.toList = text := by
  simp [inOrder]

theorem inOrder_ne_nil {entries : List String} (h : entries ≠ []) : inOrder entries ≠ [] := by
  intro hnil
  have hlength := congrArg List.length hnil
  rw [inOrder, List.length_map, List.length_mergeSort] at hlength
  exact h (List.length_eq_zero_iff.1 hlength)

theorem inOrder_eq_of_perm {entries entries' : List String} (h : entries.Perm entries') :
    inOrder entries = inOrder entries' := by
  have htrans (a b c : String) : decide (a ≤ b) = true → decide (b ≤ c) = true →
      decide (a ≤ c) = true := by
    simpa using String.le_trans
  have htotal (a b : String) : (decide (a ≤ b) || decide (b ≤ a)) = true := by
    simpa using String.le_total a b
  have hperm := (List.mergeSort_perm entries fun a b => decide (a ≤ b)).trans
    (h.trans (List.mergeSort_perm entries' fun a b => decide (a ≤ b)).symm)
  have hsorted := hperm.eq_of_pairwise
    (fun a b _ _ hab hba => String.le_antisymm (of_decide_eq_true hab) (of_decide_eq_true hba))
    (List.pairwise_mergeSort htrans htotal entries) (List.pairwise_mergeSort htrans htotal entries')
  rw [inOrder, inOrder, hsorted]

theorem perm_of_inOrder_eq {entries entries' : List String}
    (h : inOrder entries = inOrder entries') : entries.Perm entries' := by
  have hsorted := List.map_injective_iff.2 (fun _ _ heq => String.toList_injective heq) h
  have hperm := List.mergeSort_perm entries fun a b => decide (a ≤ b)
  rw [hsorted] at hperm
  exact hperm.symm.trans (List.mergeSort_perm entries' _)

theorem keySection_eq_of_perm {entries entries' : List String} (tag separator : Char)
    (h : entries.Perm entries') :
    keySection tag separator entries = keySection tag separator entries' := by
  by_cases hnil : entries = []
  · subst hnil
    rw [List.nil_perm.1 h]
  · have hnil' : entries' ≠ [] := fun hnil' => hnil (List.perm_nil.1 (hnil' ▸ h))
    rw [keySection_of_ne_nil hnil, keySection_of_ne_nil hnil', inOrder_eq_of_perm h]

theorem SameKeyed.selectedHeaders {a b : Request} (h : d.SameKeyed a b) :
    (d.selectedHeaders a.headers).Perm (d.selectedHeaders b.headers) := by
  have hnodup (headers : HeaderMap) : (d.selectedHeaders headers).Nodup :=
    headers.nodup_names.filter _
  rw [List.perm_ext_iff_of_nodup (hnodup a.headers) (hnodup b.headers)]
  intro name
  rw [mem_selectedHeaders, mem_selectedHeaders]
  by_cases hname : d.headers.includes name.text = true
  · rw [h.headers name hname]
  · simp [hname]

theorem SameKeyed.headerEntries {a b : Request} (h : d.SameKeyed a b) :
    ((d.selectedHeaders a.headers).map (headerEntry a.headers)).Perm
      ((d.selectedHeaders b.headers).map (headerEntry b.headers)) := by
  have hentry : ∀ name ∈ d.selectedHeaders a.headers,
      headerEntry a.headers name = headerEntry b.headers name := by
    intro name hname
    rw [headerEntry, headerEntry, h.headers name (mem_selectedHeaders.1 hname).2]
  rw [List.map_congr_left hentry]
  exact h.selectedHeaders.map _

/-- Agreement on the path and on every selection is agreement on every section of the key. -/
theorem SameKeyed.cacheKey_eq {a b : Request} (h : d.SameKeyed a b) :
    d.cacheKey a = d.cacheKey b := by
  have hheaders := keySection_eq_of_perm 'h' ';' h.headerEntries
  have hcookies := keySection_eq_of_perm 'c' ';' (h.cookies.map (·.text))
  have hquery := keySection_eq_of_perm 'q' '&' (h.query.map (·.text))
  rw [cacheKey, cacheKey, h.path, hheaders, hcookies, hquery]

end CacheDescriptor

end EdgeRouting
