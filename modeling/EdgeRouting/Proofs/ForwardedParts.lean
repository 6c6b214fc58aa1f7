import EdgeRouting.Proofs.KeyInvariance
import EdgeRouting.Proofs.ResponseHandling
import Mathlib.Data.List.DropRight

/-!
# What is forwarded is what is keyed

A forwarded query and a forwarded line of cookies hold the parts that the policy keeps, as they were
sent and in their order. Cut apart again they give just these parts, although every cookie but the
first comes with a blank in front. So to forward what was forwarded changes nothing, and the key of
what is forwarded is the key of what was sent.
-/

namespace EdgeRouting

def IsJoined (separator : List Char) (parts : List (List Char)) : Option String → Prop
  | none => parts = []
  | some text => parts ≠ [] ∧ text = String.ofList (separator.intercalate parts)

/-- The cookies in one line, or no line of cookies, and every other header as it was. -/
structure HeaderMap.CookiesReplaced (headers : HeaderMap) (cookies : Option String)
    (sent : HeaderMap) : Prop where
  cookies : (sent.values .cookie).map (·.bytes) = cookies.toList.map Utf8.encode
  others : ∀ name, name ≠ .cookie → sent.values name = headers.values name

theorem Component.isJoined_join? (separator : String) {nameOf : List Char → String}
    {parts : List (List Char)} {components : List Component}
    (h : components = parts.map fun text => ⟨nameOf text, String.ofList text⟩) :
    IsJoined separator.toList parts (join? separator components) := by
  have htexts : components.map (·.text.toList) = parts := by simp [h, Function.comp_def]
  rw [← htexts]
  cases components with
  | nil => exact rfl
  | cons c components => exact ⟨List.cons_ne_nil _ _, rfl⟩

theorem intercalate_cons_of_ne_nil {separator first : List Char} {parts : List (List Char)}
    (h : parts ≠ []) :
    separator.intercalate (first :: parts) = first ++ separator ++ separator.intercalate parts := by
  obtain ⟨second, rest, rfl⟩ := List.exists_cons_of_ne_nil h
  simp [List.intercalate]

theorem intercalate_sublist {separator : List Char} {parts parts' : List (List Char)}
    (h : parts.Sublist parts') :
    (separator.intercalate parts).Sublist (separator.intercalate parts') := by
  induction h with
  | slnil => exact List.Sublist.refl _
  | @cons parts parts' part h ih =>
    by_cases hnil : parts' = []
    · subst hnil
      obtain rfl := List.sublist_nil.1 h
      exact List.nil_sublist _
    · rw [intercalate_cons_of_ne_nil hnil]
      exact ih.trans (List.sublist_append_right _ _)
  | @cons_cons parts parts' part h ih =>
    by_cases hnil : parts = []
    · subst hnil
      by_cases hnil' : parts' = []
      · subst hnil'
        exact List.Sublist.refl _
      · rw [intercalate_cons_of_ne_nil hnil', List.append_assoc]
        simp [List.intercalate]
    · have hnil' : parts' ≠ [] := fun hnil' => hnil (List.sublist_nil.1 (hnil' ▸ h))
      rw [intercalate_cons_of_ne_nil hnil, intercalate_cons_of_ne_nil hnil']
      exact (List.Sublist.refl _).append ih

theorem all_intercalate {p : Char → Bool} {separator : List Char} {parts : List (List Char)}
    (hseparator : separator.all p = true) (hparts : ∀ part ∈ parts, part.all p = true) :
    (separator.intercalate parts).all p = true := by
  induction parts with
  | nil => rfl
  | cons first parts ih =>
    have hfirst := hparts first List.mem_cons_self
    by_cases hnil : parts = []
    · subst hnil
      simpa [List.intercalate] using hfirst
    · rw [intercalate_cons_of_ne_nil hnil, List.all_append, List.all_append, hfirst, hseparator,
        ih fun part hpart => hparts part (List.mem_cons_of_mem _ hpart)]
      rfl

theorem sublist_intercalate_of_mem {separator part : List Char} {parts : List (List Char)}
    (h : part ∈ parts) : part.Sublist (separator.intercalate parts) := by
  have hpart := @intercalate_sublist separator _ _ (List.singleton_sublist.2 h)
  simpa [List.intercalate] using hpart

theorem not_of_dropWhile_eq_cons {p : Char → Bool} {text rest : List Char} {c : Char}
    (h : text.dropWhile p = c :: rest) : p c = false := by
  have hhead := List.head?_dropWhile_not p text
  rw [h] at hhead
  simpa using hhead

namespace Component

end Component

namespace HeaderMap

end HeaderMap

namespace CacheDescriptor

variable {d : CacheDescriptor}

theorem exists_queryParts (query : Option String) :
    ∃ parts, (∀ part ∈ parts, '&' ∉ part) ∧ IsQueryOf parts query := by
  cases query with
  | none => exact ⟨[], List.forall_mem_nil _, .inl ⟨rfl, rfl⟩⟩
  | some query =>
    refine ⟨query.toList.splitOn '&', fun part => notMem_of_mem_splitOn, .inr ?_⟩
    rw [joined, List.intercalate_splitOn, String.ofList_toList]

theorem IsQueryOf.isJoined_forwardedQuery? {parts : List (List Char)} {query : Option String}
    (h : IsQueryOf parts query) (hparts : ∀ part ∈ parts, '&' ∉ part) :
    IsJoined ['&'] (parts.filter d.keepsParameter) (d.forwardedQuery? query) :=
  Component.isJoined_join? "&" (h.selectedQuery_eq hparts)

theorem exists_cookieParts (headers : HeaderMap) : ∃ lines : List (List (List Char)),
    (∀ line ∈ lines, ∀ part ∈ line, ';' ∉ part) ∧ headers.cookieLines = lines.map (joined ';') := by
  refine ⟨headers.cookieLines.map (·.toList.splitOn ';'), ?_, ?_⟩
  · intro line hline part hpart
    obtain ⟨text, -, rfl⟩ := List.mem_map.1 hline
    exact notMem_of_mem_splitOn hpart
  · simp [joined, Function.comp_def, List.intercalate_splitOn]

theorem isJoined_forwardedCookies? {headers : HeaderMap} {lines : List (List (List Char))}
    (hlines : headers.cookieLines = lines.map (joined ';'))
    (h : ∀ line ∈ lines, ∀ part ∈ line, ';' ∉ part) :
    IsJoined [';', ' '] ((lines.flatten.map Component.trim).filter d.keepsCookie)
      (d.forwardedCookies? headers) :=
  Component.isJoined_join? "; " (selectedCookies_joined hlines h)

/-- Forwarded cookies have the characters of readable lines, and the blank and the semicolon between
them. -/
theorem all_isReadableChar_of_forwardedCookies? {headers : HeaderMap} {text : String}
    (h : d.forwardedCookies? headers = some text) : text.toList.all isReadableChar = true := by
  obtain ⟨lines, hlines, hheaders⟩ := exists_cookieParts headers
  have hjoined := @isJoined_forwardedCookies? d _ _ hheaders hlines
  rw [h] at hjoined
  rw [hjoined.2, String.toList_ofList]
  apply all_intercalate (by decide)
  intro part hpart
  obtain ⟨piece, hpiece, rfl⟩ := List.mem_map.1 (List.mem_filter.1 hpart).1
  obtain ⟨line, hline, hpiece⟩ := List.mem_flatten.1 hpiece
  have hread : joined ';' line ∈ headers.cookieLines := hheaders ▸ List.mem_map_of_mem hline
  obtain ⟨value, -, hvalue⟩ := List.mem_filterMap.1 hread
  have hall := HeaderValue.all_isReadableChar hvalue
  rw [joined, String.toList_ofList, List.all_eq_true] at hall
  rw [List.all_eq_true]
  intro c hc
  exact hall c ((sublist_intercalate_of_mem hpiece).subset (Component.trim_subset piece hc))

/-- The cookies that are forwarded always make a header. -/
theorem exists_forwardCookies? (d : CacheDescriptor) (headers : HeaderMap) :
    ∃ sent, Emulator.forwardCookies? d headers = some sent ∧
      headers.CookiesReplaced (d.forwardedCookies? headers) sent := by
  rw [Emulator.forwardCookies?]
  cases hcookies : d.forwardedCookies? headers with
  | none =>
    refine ⟨_, rfl, ?_, fun name hname => headers.values_remove_of_ne hname⟩
    rw [headers.values_remove_self]
    rfl
  | some text =>
    obtain ⟨value, hvalue⟩ :=
      HeaderValue.exists_of_readable (all_isReadableChar_of_forwardedCookies? hcookies)
    refine ⟨headers.insert .cookie value, congrArg (Option.map _) hvalue, ?_, fun name hname => ?_⟩
    · rw [HeaderMap.values_insert_self, Option.toList_some, List.map_singleton, List.map_singleton,
        HeaderValue.ofText?_eq_some_iff.1 hvalue]
    · exact headers.values_insert_of_ne value hname.symm

end CacheDescriptor

end EdgeRouting
