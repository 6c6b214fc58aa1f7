import EdgeRouting.Proofs.KeyedParts
import EdgeRouting.Proofs.MarkedText

/-!
# Reading a cache key back

A key writes its sections one behind the other and escapes nothing, so a path that holds the mark of
a section can be taken for a shorter path with that section. `HasPlainKey` says that no text in a
key can be taken for such a mark. Keys of this kind are read back section by section: they are equal
exactly for requests that agree on all that is keyed.
-/

namespace EdgeRouting

namespace CacheDescriptor

def Tagged (tags : List Char) (after : List Char) : Prop :=
  ∃ tag ∈ tags, after = [tag, ':']

theorem unmarked_tagged_iff {tags text : List Char} :
    Unmarked '|' (Tagged tags) text ↔ ∀ tag ∈ tags, ¬ ['|', tag, ':'] <:+: text := by
  constructor
  · intro h tag htag
    exact h _ ⟨tag, htag, rfl⟩
  · rintro h after ⟨tag, htag, rfl⟩
    exact h tag htag

instance (tags text : List Char) : Decidable (Unmarked '|' (Tagged tags) text) :=
  @decidable_of_iff _ _ unmarked_tagged_iff.symm (List.decidableBAll _ tags)

/-- What stands behind the semicolon in front of a header entry. -/
def NamesHeader (d : CacheDescriptor) (after : List Char) : Prop :=
  ∃ name : HeaderName, d.headers.includes name.text = true ∧ after = name.text.toList ++ ['=']

def tagsAfterCookies (d : CacheDescriptor) : List Char :=
  if d.queryStrings = .none then [] else ['q']

def tagsAfterHeaders (d : CacheDescriptor) : List Char :=
  (if d.cookies = .none then [] else ['c']) ++ d.tagsAfterCookies

def tagsAfterPath (d : CacheDescriptor) : List Char :=
  (if d.headers = .none then [] else ['h']) ++ d.tagsAfterHeaders

/-- Nothing in the key can be taken for the mark of a later section or of another header, and no
byte of a selected header is replaced. -/
structure HasPlainKey (d : CacheDescriptor) (request : Request) : Prop where
  path : Unmarked '|' (Tagged d.tagsAfterPath) request.uri.path.toList
  headers : ∀ name : HeaderName, d.headers.includes name.text = true →
    ∀ value ∈ request.headers.values name,
    ∃ text, HeaderValue.ofText? text = some value ∧
    Unmarked '|' (Tagged d.tagsAfterHeaders) text.toList ∧
      Unmarked ';' d.NamesHeader text.toList
  cookies : ∀ cookie ∈ d.selectedCookies request.headers,
    Unmarked '|' (Tagged d.tagsAfterCookies) cookie.text.toList

variable {d : CacheDescriptor} {tags : List Char} {tag separator : Char}
  {entries entries' : List String} {rest rest' : List Char}

/-- A character of a section mark is the bar, a tag or the colon. -/
theorem notMem_mark {c : Char} (hbar : c ≠ '|') (hcolon : c ≠ ':') (htags : c ∉ tags) :
    ∀ after, Tagged tags after → c ∉ '|' :: after := by
  rintro after ⟨tag, htag, rfl⟩ hmem
  simp only [List.mem_cons, List.not_mem_nil, or_false] at hmem
  rcases hmem with rfl | rfl | rfl
  · exact hbar rfl
  · exact htags htag
  · exact hcolon rfl

theorem bar_notMem_of_tagged (htags : '|' ∉ tags) : ∀ after, Tagged tags after → '|' ∉ after := by
  rintro after ⟨tag, htag, rfl⟩ hmem
  simp only [List.mem_cons, List.not_mem_nil, or_false] at hmem
  rcases hmem with rfl | hcolon
  · exact htags htag
  · cases hcolon

theorem semicolon_notMem_of_namesHeader : ∀ after, d.NamesHeader after → ';' ∉ after := by
  rintro after ⟨name, -, rfl⟩ hmem
  rcases List.mem_append.1 hmem with hname | heq
  · exact name.notMem_text (by decide) hname
  · simp at heq

theorem mem_tagsAfterPath {c : Char} (h : c ∈ d.tagsAfterPath) : c = 'h' ∨ c = 'c' ∨ c = 'q' := by
  simp only [tagsAfterPath, tagsAfterHeaders, tagsAfterCookies, List.mem_append] at h
  grind

theorem tagsAfterHeaders_subset : d.tagsAfterHeaders ⊆ d.tagsAfterPath :=
  List.subset_append_right _ _

theorem tagsAfterCookies_subset : d.tagsAfterCookies ⊆ d.tagsAfterHeaders :=
  List.subset_append_right _ _

theorem atMark_of_subset {tags' : List Char} (h : AtMark '|' (Tagged tags) rest)
    (hsubset : tags ⊆ tags') : AtMark '|' (Tagged tags') rest := by
  rcases h with hnil | ⟨after, ⟨tag, htag, rfl⟩, hprefix⟩
  · exact .inl hnil
  · exact .inr ⟨_, ⟨tag, hsubset htag, rfl⟩, hprefix⟩

theorem atMark_keySection (htag : entries ≠ [] → tag ∈ tags)
    (hrest : AtMark '|' (Tagged tags) rest) :
    AtMark '|' (Tagged tags) (keySection tag separator entries ++ rest) := by
  by_cases hnil : entries = []
  · rw [hnil, keySection_nil, List.nil_append]
    exact hrest
  · rw [keySection_of_ne_nil hnil]
    exact .inr ⟨[tag, ':'], ⟨tag, htag hnil, rfl⟩, ⟨_, rfl⟩⟩

/-- A section that is written is none of those that may come later. -/
theorem keySection_ne (htag : tag ∉ tags) (hnil : entries ≠ [])
    (hrest : AtMark '|' (Tagged tags) rest) (rest' : List Char) :
    rest ≠ keySection tag separator entries ++ rest' := by
  rw [keySection_of_ne_nil hnil]
  rintro rfl
  rcases hrest with hnil | ⟨after, ⟨tag', htag', rfl⟩, hprefix⟩
  · cases hnil
  · obtain ⟨rfl, -⟩ := List.cons_prefix_cons.1 (List.cons_prefix_cons.1 hprefix).2
    exact htag htag'

/-- Where a section ends is seen from the mark of the next one. -/
theorem keySection_append_inj (htag : tag ∉ tags) (hbar : '|' ∉ tags)
    (hbody : Unmarked '|' (Tagged tags) ([separator].intercalate (inOrder entries)))
    (hbody' : Unmarked '|' (Tagged tags) ([separator].intercalate (inOrder entries')))
    (hrest : AtMark '|' (Tagged tags) rest) (hrest' : AtMark '|' (Tagged tags) rest')
    (h : keySection tag separator entries ++ rest = keySection tag separator entries' ++ rest') :
    (entries = [] ↔ entries' = []) ∧
      [separator].intercalate (inOrder entries) = [separator].intercalate (inOrder entries') ∧
      rest = rest' := by
  by_cases hnil : entries = [] <;> by_cases hnil' : entries' = []
  · subst hnil hnil'
    exact ⟨.rfl, rfl, h⟩
  · subst hnil
    exact absurd h (keySection_ne htag hnil' hrest rest')
  · subst hnil'
    exact absurd h.symm (keySection_ne htag hnil hrest' rest)
  · rw [keySection_of_ne_nil hnil, keySection_of_ne_nil hnil'] at h
    simp only [List.cons_append, List.cons.injEq, true_and] at h
    obtain ⟨hbodies, hrests⟩ :=
      append_inj_of_unmarked (bar_notMem_of_tagged hbar) hbody hbody' hrest hrest' h
    exact ⟨iff_of_false hnil hnil', hbodies, hrests⟩

/-- Entries without the separator are got back from their section, up to their order. -/
theorem perm_of_section (hnil : entries = [] ↔ entries' = [])
    (hentries : ∀ entry ∈ entries, separator ∉ entry.toList)
    (hentries' : ∀ entry ∈ entries', separator ∉ entry.toList)
    (h : [separator].intercalate (inOrder entries) = [separator].intercalate (inOrder entries')) :
    entries.Perm entries' := by
  by_cases hempty : entries = []
  · rw [hempty, hnil.1 hempty]
  · have hne := inOrder_ne_nil hempty
    have hne' := inOrder_ne_nil fun hempty' => hempty (hnil.2 hempty')
    have htexts {entries : List String} (hentries : ∀ entry ∈ entries, separator ∉ entry.toList) :
        ∀ text ∈ inOrder entries, separator ∉ text := by
      intro text htext
      obtain ⟨entry, hentry, rfl⟩ := mem_inOrder.1 htext
      exact hentries entry hentry
    exact perm_of_inOrder_eq
      (intercalate_inj_of_notMem hne hne' (htexts hentries) (htexts hentries') h)

theorem unmarked_section (hseparator : ∀ after, Tagged tags after → separator ∉ '|' :: after)
    (h : ∀ entry ∈ entries, Unmarked '|' (Tagged tags) entry.toList) :
    Unmarked '|' (Tagged tags) ([separator].intercalate (inOrder entries)) := by
  refine Unmarked.intercalate hseparator fun text htext => ?_
  obtain ⟨entry, hentry, rfl⟩ := mem_inOrder.1 htext
  exact h entry hentry

def valueTexts (headers : HeaderMap) (name : HeaderName) : List (List Char) :=
  (headers.values name).map fun value => (Utf8.decodeLossy value.bytes).toList

theorem toList_headerEntry (headers : HeaderMap) (name : HeaderName) :
    (headerEntry headers name).toList =
      name.text.toList ++ '=' :: [','].intercalate (valueTexts headers name) := by
  rw [headerEntry, String.toList_ofList]
  rfl

theorem takeWhile_headerEntry (headers : HeaderMap) (name : HeaderName) :
    (headerEntry headers name).toList.takeWhile (· ≠ '=') = name.text.toList ∧
      (headerEntry headers name).toList.dropWhile (· ≠ '=') =
        '=' :: [','].intercalate (valueTexts headers name) := by
  have hname : ∀ c ∈ name.text.toList, decide (c ≠ '=') = true := by
    intro c hc
    refine decide_eq_true fun heq => ?_
    exact name.notMem_text (by decide) (heq ▸ hc)
  rw [toList_headerEntry]
  constructor
  · rw [List.takeWhile_append_of_pos hname]
    simp
  · rw [List.dropWhile_append_of_pos hname]
    simp

/-- An entry begins with its name, so its name and its values can be told from it. -/
theorem headerEntry_inj {headers headers' : HeaderMap} {name name' : HeaderName}
    (h : headerEntry headers name = headerEntry headers' name') :
    name = name' ∧
    [','].intercalate (valueTexts headers name) =
      [','].intercalate (valueTexts headers' name') := by
  obtain ⟨hname, hvalues⟩ := takeWhile_headerEntry headers name
  obtain ⟨hname', hvalues'⟩ := takeWhile_headerEntry headers' name'
  rw [h] at hname hvalues
  exact ⟨HeaderName.eq_of_text (String.toList_inj.1 (hname.symm.trans hname')),
    (List.cons.inj (hvalues.symm.trans hvalues')).2⟩

/-- The text of a value that is the bytes of a text. -/
theorem decodeLossy_of_ofText? {text : String} {value : HeaderValue}
    (h : HeaderValue.ofText? text = some value) : Utf8.decodeLossy value.bytes = text := by
  rw [HeaderValue.ofText?_eq_some_iff.1 h, Utf8.decodeLossy_encode]

namespace HasPlainKey

variable {a b : Request}

theorem values_eq (ha : d.HasPlainKey a) (hb : d.HasPlainKey b) {name : HeaderName}
    (hname : d.headers.includes name.text = true)
    (h : valueTexts a.headers name = valueTexts b.headers name) :
    a.headers.values name = b.headers.values name := by
  have hback {request : Request} (hplain : d.HasPlainKey request) :
      (valueTexts request.headers name).map (fun text => HeaderValue.ofText? (String.ofList text)) =
        (request.headers.values name).map some := by
    rw [valueTexts, List.map_map]
    apply List.map_congr_left
    intro value hvalue
    obtain ⟨text, htext, -, -⟩ := hplain.headers name hname value hvalue
    rw [Function.comp_apply, decodeLossy_of_ofText? htext, String.ofList_toList]
    exact htext
  have hsome := (hback ha).symm.trans ((congrArg _ h).trans (hback hb))
  exact List.map_injective_iff.2 (fun _ _ heq => Option.some.inj heq) hsome

/-- What a value text may not hold, an entry does not hold either: its name and the signs around it
have no part in a mark. -/
theorem unmarked_headerEntry (ha : d.HasPlainKey a) {name : HeaderName}
    (hname : d.headers.includes name.text = true) :
    Unmarked '|' (Tagged d.tagsAfterHeaders) (headerEntry a.headers name).toList ∧
      Continues ';' d.NamesHeader (headerEntry a.headers name).toList := by
  have htag {c : Char} (hc : c = '=' ∨ c = ',') :
      ∀ after, Tagged d.tagsAfterHeaders after → c ∉ '|' :: after := by
    have hnot : c ∉ d.tagsAfterHeaders := by
      intro hmem
      have := mem_tagsAfterPath (tagsAfterHeaders_subset hmem)
      grind
    exact notMem_mark (by grind) (by grind) hnot
  have hcomma : ∀ after, d.NamesHeader after → ',' ∉ ';' :: after := by
    rintro after ⟨other, -, rfl⟩ hmem
    have hother := other.notMem_text (c := ',') (by decide)
    simp [hother] at hmem
  have htexts : ∀ text ∈ valueTexts a.headers name,
      Unmarked '|' (Tagged d.tagsAfterHeaders) text ∧ Unmarked ';' d.NamesHeader text := by
    intro text htext
    obtain ⟨value, hvalue, rfl⟩ := List.mem_map.1 htext
    obtain ⟨text, htext, hsections, hentries⟩ := ha.headers name hname value hvalue
    rw [decodeLossy_of_ofText? htext]
    exact ⟨hsections, hentries⟩
  rw [toList_headerEntry]
  refine ⟨?_, ?_, ?_⟩
  · -- No header name holds a colon.
    have hnamed : Unmarked '|' (Tagged d.tagsAfterHeaders) name.text.toList := by
      rintro after ⟨tag, -, rfl⟩ hwithin
      exact name.notMem_text (c := ':') (by decide) (hwithin.subset (by simp))
    exact hnamed.append_cons (htag (.inl rfl))
      (Unmarked.intercalate (htag (.inr rfl)) fun text h => (htexts text h).1)
  · have hsemicolon : ';' ∉ name.text.toList ++ ['='] :=
      semicolon_notMem_of_namesHeader _ ⟨name, hname, rfl⟩
    rw [List.append_cons]
    exact .append_of_notMem hsemicolon (Unmarked.intercalate hcomma fun text h => (htexts text h).2)
  · refine ⟨name.text.toList ++ ['='], ⟨name, hname, rfl⟩,
      [','].intercalate (valueTexts a.headers name), ?_⟩
    rw [List.append_assoc, List.singleton_append]

/-- An entry that both keys hold gives both requests the same values of its name. -/
theorem values_eq_of_entry_mem (ha : d.HasPlainKey a) (hb : d.HasPlainKey b) {name : HeaderName}
    (hname : d.headers.includes name.text = true)
    (hcomma : (a.headers.values name).length ≤ 1 ∧ (b.headers.values name).length ≤ 1 ∨
      ∀ value ∈ a.headers.values name ++ b.headers.values name, 0x2C ∉ value.bytes)
    (hselected : a.headers.values name ≠ [])
    (h : headerEntry a.headers name ∈ (d.selectedHeaders b.headers).map (headerEntry b.headers)) :
    a.headers.values name = b.headers.values name := by
  obtain ⟨other, hother, hentry⟩ := List.mem_map.1 h
  obtain ⟨rfl, hjoined⟩ := headerEntry_inj hentry
  have hselected' := (mem_selectedHeaders.1 hother).1
  refine values_eq ha hb hname ?_
  have hne {headers : HeaderMap}
      (h : headers.values other ≠ []) : valueTexts headers other ≠ [] := by
    rwa [valueTexts, Ne, List.map_eq_nil_iff]
  rcases hcomma with ⟨hone, hone'⟩ | hcomma
  · have hsingle {headers : HeaderMap} (h : headers.values other ≠ [])
        (hone : (headers.values other).length ≤ 1) :
        ∃ text, valueTexts headers other = [text] := by
      rw [← List.length_eq_one_iff, valueTexts, List.length_map]
      have hpos := List.length_pos_iff.2 h
      omega
    obtain ⟨text, htext⟩ := hsingle hselected hone
    obtain ⟨text', htext'⟩ := hsingle hselected' hone'
    rw [htext, htext', List.intercalate_singleton, List.intercalate_singleton] at hjoined
    rw [htext, htext', hjoined]
  · have hplain {request : Request} (hrequest : d.HasPlainKey request)
        (hcomma : ∀ value ∈ request.headers.values other, 0x2C ∉ value.bytes) :
        ∀ text ∈ valueTexts request.headers other, ',' ∉ text := by
      intro text htext
      obtain ⟨value, hvalue, rfl⟩ := List.mem_map.1 htext
      obtain ⟨text, htext, -, -⟩ := hrequest.headers other hname value hvalue
      rw [decodeLossy_of_ofText? htext]
      exact fun hmem => hcomma value hvalue (HeaderValue.comma_mem_bytes htext hmem)
    exact intercalate_inj_of_notMem (hne hselected) (hne hselected')
      (hplain ha fun value hvalue => hcomma value (List.mem_append_left _ hvalue))
      (hplain hb fun value hvalue => hcomma value (List.mem_append_right _ hvalue)) hjoined.symm

end HasPlainKey

def headerTexts (d : CacheDescriptor) (request : Request) : List String :=
  (d.selectedHeaders request.headers).map (headerEntry request.headers)

def cookieTexts (d : CacheDescriptor) (request : Request) : List String :=
  (d.selectedCookies request.headers).map (·.text)

def queryTexts (d : CacheDescriptor) (request : Request) : List String :=
  (d.selectedQuery request.uri.query).map (·.text)

theorem toList_cacheKey (d : CacheDescriptor) (request : Request) :
    (d.cacheKey request).toList =
      request.uri.path.toList ++ (keySection 'h' ';' (d.headerTexts request) ++
      (keySection 'c' ';' (d.cookieTexts request) ++
        (keySection 'q' '&' (d.queryTexts request) ++ []))) := by
  rw [cacheKey, String.toList_ofList, List.append_nil, List.append_assoc, List.append_assoc]
  rfl

theorem atMark_query (d : CacheDescriptor) (request : Request) :
    AtMark '|' (Tagged d.tagsAfterCookies) (keySection 'q' '&' (d.queryTexts request) ++ []) := by
  refine atMark_keySection (fun hne => ?_) atMark_nil
  have hquery : d.queryStrings ≠ .none := by
    intro hnone
    simp [queryTexts, selectedQuery, hnone, QuerySelector.includes] at hne
  simp [tagsAfterCookies, hquery]

theorem atMark_cookies (d : CacheDescriptor) (request : Request) :
    AtMark '|' (Tagged d.tagsAfterHeaders)
      (keySection 'c' ';' (d.cookieTexts request) ++
        (keySection 'q' '&' (d.queryTexts request) ++ [])) := by
  refine atMark_keySection (fun hne => ?_)
    (atMark_of_subset (d.atMark_query request) tagsAfterCookies_subset)
  have hcookies : d.cookies ≠ .none := by
    intro hnone
    simp [cookieTexts, selectedCookies, hnone, Selector.includes] at hne
  simp [tagsAfterHeaders, hcookies]

theorem atMark_headers (d : CacheDescriptor) (request : Request) :
    AtMark '|' (Tagged d.tagsAfterPath) (keySection 'h' ';' (d.headerTexts request) ++
      (keySection 'c' ';' (d.cookieTexts request) ++
        (keySection 'q' '&' (d.queryTexts request) ++ []))) := by
  refine atMark_keySection (fun hne => ?_)
    (atMark_of_subset (d.atMark_cookies request) tagsAfterHeaders_subset)
  have hheaders : d.headers ≠ .none := by
    intro hnone
    simp [headerTexts, selectedHeaders, hnone, Selector.includes] at hne
  simp [tagsAfterPath, hheaders]

theorem notMem_tagsAfterPath {c : Char} (hh : c ≠ 'h') (hc : c ≠ 'c') (hq : c ≠ 'q') :
    c ∉ d.tagsAfterPath := by
  intro hmem
  rcases mem_tagsAfterPath hmem with rfl | rfl | rfl
  · exact hh rfl
  · exact hc rfl
  · exact hq rfl

theorem tag_h_notMem (d : CacheDescriptor) : 'h' ∉ d.tagsAfterHeaders := by
  simp only [tagsAfterHeaders, tagsAfterCookies]
  grind

theorem tag_c_notMem (d : CacheDescriptor) : 'c' ∉ d.tagsAfterCookies := by
  simp only [tagsAfterCookies]
  grind

/-- A selected cookie has been cut at semicolons, and a selected parameter at ampersands. -/
theorem semicolon_notMem_cookieTexts (d : CacheDescriptor) (request : Request) :
    ∀ text ∈ d.cookieTexts request, ';' ∉ text.toList := by
  intro text htext
  obtain ⟨cookie, hcookie, rfl⟩ := List.mem_map.1 htext
  exact (of_mem_selectedCookies hcookie).2

theorem ampersand_notMem_queryTexts (d : CacheDescriptor) (request : Request) :
    ∀ text ∈ d.queryTexts request, '&' ∉ text.toList := by
  intro text htext
  obtain ⟨parameter, hparameter, rfl⟩ := List.mem_map.1 htext
  exact (of_mem_selectedQuery hparameter).2

theorem HasPlainKey.unmarked_headerTexts {request : Request} (h : d.HasPlainKey request) :
    ∀ text ∈ d.headerTexts request,
      Unmarked '|' (Tagged d.tagsAfterHeaders) text.toList ∧
      Continues ';' d.NamesHeader text.toList := by
  intro text htext
  obtain ⟨name, hname, rfl⟩ := List.mem_map.1 htext
  exact h.unmarked_headerEntry (mem_selectedHeaders.1 hname).2

theorem HasPlainKey.unmarked_cookieTexts {request : Request} (h : d.HasPlainKey request) :
    ∀ text ∈ d.cookieTexts request, Unmarked '|' (Tagged d.tagsAfterCookies) text.toList := by
  intro text htext
  obtain ⟨cookie, hcookie, rfl⟩ := List.mem_map.1 htext
  exact h.cookies cookie hcookie

/-- Header entries are told apart by the names that they begin with, although a semicolon may stand
in a value. -/
theorem HasPlainKey.headerTexts_perm {a b : Request} (ha : d.HasPlainKey a) (hb : d.HasPlainKey b)
    (hnil : d.headerTexts a = [] ↔ d.headerTexts b = [])
    (h : [';'].intercalate (inOrder (d.headerTexts a)) =
      [';'].intercalate (inOrder (d.headerTexts b))) :
    (d.headerTexts a).Perm (d.headerTexts b) := by
  have hcontinues {request : Request} (hplain : d.HasPlainKey request) :
      ∀ text ∈ inOrder (d.headerTexts request), Continues ';' d.NamesHeader text := by
    intro text htext
    obtain ⟨entry, hentry, rfl⟩ := mem_inOrder.1 htext
    exact (hplain.unmarked_headerTexts entry hentry).2
  by_cases hempty : d.headerTexts a = []
  · rw [hempty, hnil.1 hempty]
  · have hne' : d.headerTexts b ≠ [] := fun hempty' => hempty (hnil.2 hempty')
    exact perm_of_inOrder_eq
      (intercalate_inj_of_continues semicolon_notMem_of_namesHeader (inOrder_ne_nil hempty)
      (inOrder_ne_nil hne') (hcontinues ha) (hcontinues hb) h)

/-- The sections of two equal keys, taken off one after the other. -/
theorem HasPlainKey.sections_eq {a b : Request} (ha : d.HasPlainKey a) (hb : d.HasPlainKey b)
    (h : d.cacheKey a = d.cacheKey b) :
    a.uri.path = b.uri.path ∧ (d.headerTexts a).Perm (d.headerTexts b) ∧
      (d.cookieTexts a).Perm (d.cookieTexts b) ∧ (d.queryTexts a).Perm (d.queryTexts b) := by
  have hkeys := congrArg String.toList h
  rw [toList_cacheKey, toList_cacheKey] at hkeys
  have hbar : '|' ∉ d.tagsAfterPath := notMem_tagsAfterPath (by decide) (by decide) (by decide)
  have hbar' : '|' ∉ d.tagsAfterHeaders := fun hmem => hbar (tagsAfterHeaders_subset hmem)
  have hbar'' : '|' ∉ d.tagsAfterCookies := fun hmem => hbar' (tagsAfterCookies_subset hmem)
  have hsemicolon : ';' ∉ d.tagsAfterHeaders := fun hmem =>
    notMem_tagsAfterPath (by decide) (by decide) (by decide) (tagsAfterHeaders_subset hmem)
  have hsemicolon' : ';' ∉ d.tagsAfterCookies :=
    fun hmem => hsemicolon (tagsAfterCookies_subset hmem)
  -- The path ends at the first mark of a section.
  obtain ⟨hpath, hheaders⟩ := append_inj_of_unmarked (bar_notMem_of_tagged hbar) ha.path hb.path
    (d.atMark_headers a) (d.atMark_headers b) hkeys
  have hbody {request : Request} (hplain : d.HasPlainKey request) :
      Unmarked '|' (Tagged d.tagsAfterHeaders)
        ([';'].intercalate (inOrder (d.headerTexts request))) :=
    unmarked_section (notMem_mark (by decide) (by decide) hsemicolon)
      fun text htext => (hplain.unmarked_headerTexts text htext).1
  obtain ⟨hnil, hheaderTexts, hcookies⟩ :=
    keySection_append_inj (tag_h_notMem d) hbar' (hbody ha) (hbody hb)
    (d.atMark_cookies a) (d.atMark_cookies b) hheaders
  have hbody' {request : Request} (hplain : d.HasPlainKey request) :
      Unmarked '|' (Tagged d.tagsAfterCookies)
        ([';'].intercalate (inOrder (d.cookieTexts request))) :=
    unmarked_section (notMem_mark (by decide) (by decide) hsemicolon')
      hplain.unmarked_cookieTexts
  obtain ⟨hnil', hcookieTexts, hquery⟩ :=
    keySection_append_inj (tag_c_notMem d) hbar'' (hbody' ha) (hbody' hb)
    (d.atMark_query a) (d.atMark_query b) hcookies
  -- No section comes after the query, so nothing in it can be taken for one.
  have hlast (text : List Char) : Unmarked '|' (Tagged []) text :=
    fun _ htagged => nomatch htagged.choose_spec.1
  obtain ⟨hnil'', hqueryTexts, -⟩ :=
    keySection_append_inj List.not_mem_nil List.not_mem_nil (hlast _) (hlast _)
    atMark_nil atMark_nil hquery
  refine ⟨String.toList_inj.1 hpath, ha.headerTexts_perm hb hnil hheaderTexts, ?_, ?_⟩
  · exact perm_of_section hnil' (d.semicolon_notMem_cookieTexts a)
      (d.semicolon_notMem_cookieTexts b) hcookieTexts
  · exact perm_of_section hnil'' (d.ampersand_notMem_queryTexts a)
      (d.ampersand_notMem_queryTexts b) hqueryTexts

/-- Plain keys are equal exactly for requests that agree on all that is keyed. The values of one
header are written with commas between them, so they are told apart only where a name has a single
value or no value holds a comma. -/
theorem cacheKey_eq_iff_sameKeyed {a b : Request} (ha : d.HasPlainKey a) (hb : d.HasPlainKey b)
    (hcomma : ∀ name : HeaderName, d.headers.includes name.text = true →
      (a.headers.values name).length ≤ 1 ∧ (b.headers.values name).length ≤ 1 ∨
        ∀ value ∈ a.headers.values name ++ b.headers.values name, 0x2C ∉ value.bytes) :
    d.cacheKey a = d.cacheKey b ↔ d.SameKeyed a b := by
  refine ⟨fun h => ?_, fun h => h.cacheKey_eq⟩
  obtain ⟨hpath, hheaders, hcookies, hquery⟩ := ha.sections_eq hb h
  refine ⟨hpath, fun name hname => ?_, ?_, ?_⟩
  · have hentry {request : Request} (hselected : request.headers.values name ≠ []) :
        headerEntry request.headers name ∈ d.headerTexts request :=
      List.mem_map_of_mem (mem_selectedHeaders.2 ⟨hselected, hname⟩)
    by_cases hselected : a.headers.values name = []
    · by_contra hne
      have hselected' : b.headers.values name ≠ [] := fun hnil => hne (hselected.trans hnil.symm)
      have hcomma' := (hcomma name hname).imp And.symm fun h value hvalue =>
        h value (List.mem_append.2 (List.mem_append.1 hvalue).symm)
      have hmem := hheaders.symm.subset (hentry hselected')
      exact hne (hb.values_eq_of_entry_mem ha hname hcomma' hselected' hmem).symm
    · have hmem := hheaders.subset (hentry hselected)
      exact ha.values_eq_of_entry_mem hb hname (hcomma name hname) hselected hmem
  · exact Component.perm_of_texts (fun c hc => (of_mem_selectedCookies hc).1)
      (fun c hc => (of_mem_selectedCookies hc).1) hcookies
  · exact Component.perm_of_texts (fun c hc => (of_mem_selectedQuery hc).1)
      (fun c hc => (of_mem_selectedQuery hc).1) hquery

/-- Bars, semicolons and commas do no harm where they are not part of a mark: these requests have
different keys. -/
theorem cacheKey_punctuated_values : ∃ (d : CacheDescriptor) (a b : Request),
    d.headers = .allowList ["accept"] ∧ d.queryStrings = .allowList ["q"] ∧
    Uri.ofText? "/a|b|q" = some a.uri ∧ Uri.ofText? "/a|b|q" = some b.uri ∧
    (a.headers.values ⟨"accept", by decide +kernel⟩).map (·.readable?) =
      [some "text/html;q=0.9, */*"] ∧
    (b.headers.values ⟨"accept", by decide +kernel⟩).map (·.readable?) =
      [some "text/html;q=0.8, */*"] ∧
    d.HasPlainKey a ∧ d.HasPlainKey b ∧
    (∀ name : HeaderName, d.headers.includes name.text = true →
      (a.headers.values name).length ≤ 1 ∧ (b.headers.values name).length ≤ 1) ∧
    d.cacheKey a ≠ d.cacheKey b := by
  let d : CacheDescriptor := ⟨.allowList ["accept"], .none, .allowList ["q"]⟩
  let accept : HeaderName := ⟨"accept", by decide +kernel⟩
  let request (text : String) (legal : (Utf8.encode text).all isHeaderByte = true) : Request := {
    method := ⟨"GET", by decide +kernel⟩
    uri := ⟨none, none, "/a|b|q", none⟩
    headers := ⟨[(accept, ⟨_, legal⟩)]⟩
    body := [] }
  have hselected : ∀ name : HeaderName, d.headers.includes name.text = true → name = accept := by
    intro name hname
    have htext : name.text = "accept" := by simpa [d, Selector.includes] using hname
    exact HeaderName.eq_of_text htext
  have hplain (text : String) (legal : (Utf8.encode text).all isHeaderByte = true)
      (hsections : Unmarked '|' (Tagged ['q']) text.toList)
      (hentries : ¬ ';' :: (accept.text.toList ++ ['=']) <:+: text.toList) :
      d.HasPlainKey (request text legal) := by
    have hpath : Unmarked '|' (Tagged d.tagsAfterPath) "/a|b|q".toList := by decide +kernel
    have hcookies : d.selectedCookies (request text legal).headers = [] := by
      simp [selectedCookies, d, Selector.includes]
    refine ⟨hpath, fun name hname value hvalue => ?_, by simp [hcookies]⟩
    obtain rfl := hselected name hname
    obtain rfl : value = ⟨_, legal⟩ := by simpa [request, HeaderMap.values] using hvalue
    refine ⟨text, HeaderValue.ofText?_eq_some_iff.2 rfl, hsections, ?_⟩
    rintro after ⟨other, hother, rfl⟩
    obtain rfl := hselected other hother
    exact hentries
  let a := request "text/html;q=0.9, */*" (by decide +kernel)
  let b := request "text/html;q=0.8, */*" (by decide +kernel)
  have ha : d.HasPlainKey a := hplain _ _ (by decide +kernel) (by decide +kernel)
  have hb : d.HasPlainKey b := hplain _ _ (by decide +kernel) (by decide +kernel)
  have hone : ∀ name : HeaderName, d.headers.includes name.text = true →
      (a.headers.values name).length ≤ 1 ∧ (b.headers.values name).length ≤ 1 := by
    intro name hname
    obtain rfl := hselected name hname
    decide +kernel
  have hkeys : d.cacheKey a ≠ d.cacheKey b := by
    intro hkeys
    have hsame := (cacheKey_eq_iff_sameKeyed ha hb fun name hname => .inl (hone name hname)).1 hkeys
    exact absurd (hsame.headers accept (by decide +kernel)) (by decide +kernel)
  exact ⟨d, a, b, rfl, rfl, by decide +kernel, by decide +kernel, by decide +kernel,
    by decide +kernel, ha, hb, hone, hkeys⟩

/-- A path that holds the mark of a section has the key of a shorter path with that section. -/
theorem cacheKey_bar_in_path : ∃ (d : CacheDescriptor) (a b : Request),
    d.queryStrings = .allowList ["x"] ∧
    Uri.ofText? "/a|q:x=1" = some a.uri ∧ Uri.ofText? "/a?x=1" = some b.uri ∧
    d.cacheKey a = "/a|q:x=1" ∧ d.cacheKey b = "/a|q:x=1" ∧ ¬ d.SameKeyed a b := by
  let request (uri : Uri) : Request := {
    method := ⟨"GET", by decide +kernel⟩
    uri
    headers := .empty
    body := [] }
  refine ⟨⟨.none, .none, .allowList ["x"]⟩, request ⟨none, none, "/a|q:x=1", none⟩,
    request ⟨none, none, "/a", some "x=1"⟩, rfl, by decide +kernel, by decide +kernel,
    by decide +kernel, by decide +kernel, fun hsame => ?_⟩
  exact absurd hsame.path (by decide +kernel)

end CacheDescriptor

end EdgeRouting
