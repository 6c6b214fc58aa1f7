import EdgeRouting.Proofs.ResponseHandling

/-!
# Header rules that override one another

A rule that matches counts, but its header keeps the value of the last rule that sets it.
`overriding` picks the rules that have the last word; what the injection leaves behind is what no
matching rule names, followed by their headers. So the values of every header are known, and to
inject once more changes nothing.
-/

namespace EdgeRouting.HeaderRule

variable {rules : List HeaderRule} {path : String} {headers : HeaderMap} {name : HeaderName}
  {rule : HeaderRule}

/-- Goes through the rules one by one: each that matches sets its header and is counted. -/
def apply (rules : List HeaderRule) (path : String) (headers : HeaderMap) : HeaderMap × Nat :=
  rules.foldl
    (fun done rule => if rule.glob.isMatch path then (set done.1 rule, done.2 + 1) else done)
    (headers, 0)

def overriding : List HeaderRule → List HeaderRule
  | [] => []
  | rule :: rules =>
    if rule.name ∈ rules.map (·.name) then overriding rules else rule :: overriding rules

/-- This rule matches, and no later one that matches sets the same header. -/
def Decides (rules : List HeaderRule) (path : String) (rule : HeaderRule) : Prop :=
  ∃ before after, rules = before ++ rule :: after ∧ rule.glob.isMatch path = true ∧
    ∀ later ∈ after, later.glob.isMatch path = true → later.name ≠ rule.name

theorem apply_eq (rules : List HeaderRule) (path : String) (headers : HeaderMap) :
    apply rules path headers = (inject rules path headers, rules.countP (·.glob.isMatch path)) := by
  have hfrom (applied : Nat) :
      rules.foldl
        (fun done rule => if rule.glob.isMatch path then (set done.1 rule, done.2 + 1) else done)
        (headers, applied) =
      (inject rules path headers, applied + rules.countP (·.glob.isMatch path)) := by
    induction rules generalizing headers applied with
    | nil => rfl
    | cons rule rules ih =>
      rw [List.foldl_cons, List.countP_cons, inject, matching, List.filter_cons]
      by_cases hmatch : rule.glob.isMatch path = true
      · simp only [if_pos hmatch, ih, List.foldl_cons, inject, matching]
        congr 1
        omega
      · simp only [if_neg hmatch, ih, inject, matching]
        rfl
  rw [apply, hfrom 0, Nat.zero_add]

theorem entries_set (headers : HeaderMap) (rule : HeaderRule) :
    (set headers rule).entries =
      headers.entries.filter (·.1 ≠ rule.name) ++ [(rule.name, rule.value)] := rfl

/-- What no rule names stays as it is, and behind it stand the headers of the rules that have the
last word. -/
theorem entries_foldl_set (rules : List HeaderRule) (headers : HeaderMap) :
    (rules.foldl set headers).entries = headers.entries.filter (·.1 ∉ rules.map (·.name)) ++
      (overriding rules).map fun rule => (rule.name, rule.value) := by
  induction rules generalizing headers with
  | nil => simp [overriding]
  | cons rule rules ih =>
    have hkept : (headers.entries.filter (·.1 ≠ rule.name)).filter (·.1 ∉ rules.map (·.name)) =
        headers.entries.filter (·.1 ∉ (rule :: rules).map (·.name)) := by
      rw [List.filter_filter]
      apply List.filter_congr
      intro entry _
      simp only [List.map_cons, List.mem_cons, not_or, Bool.decide_and, Bool.and_comm]
    rw [List.foldl_cons, ih, entries_set, List.filter_append, hkept, List.append_assoc, overriding]
    congr 1
    by_cases hlater : rule.name ∈ rules.map (·.name)
    · rw [if_pos hlater, List.filter_cons_of_neg (by simp only [hlater]; decide)]
      rfl
    · rw [if_neg hlater, List.filter_cons_of_pos (by simp only [hlater]; decide)]
      rfl

theorem name_mem_of_overriding (h : rule ∈ overriding rules) : rule.name ∈ rules.map (·.name) := by
  induction rules with
  | nil => cases h
  | cons first rules ih =>
    rw [List.map_cons]
    rw [overriding] at h
    split at h
    · exact List.mem_cons_of_mem _ (ih h)
    · rcases List.mem_cons.1 h with rfl | h
      · exact List.mem_cons_self
      · exact List.mem_cons_of_mem _ (ih h)

/-- Rules set their headers to the same values however often they are gone through. -/
theorem foldl_set_twice (rules : List HeaderRule) (headers : HeaderMap) :
    rules.foldl set (rules.foldl set headers) = rules.foldl set headers := by
  have hnone : ((overriding rules).map fun rule => (rule.name, rule.value)).filter
      (·.1 ∉ rules.map (·.name)) = [] := by
    rw [List.filter_eq_nil_iff, List.forall_mem_map]
    intro rule hrule
    simpa using name_mem_of_overriding hrule
  have hentries : (rules.foldl set (rules.foldl set headers)).entries =
      (rules.foldl set headers).entries := by
    rw [entries_foldl_set rules (rules.foldl set headers), entries_foldl_set rules headers,
      List.filter_append, hnone, List.filter_filter]
    simp
  exact congrArg HeaderMap.mk hentries

theorem mem_filter_matching : rule ∈ (matching rules path).filter (·.name = name) ↔
    rule ∈ rules ∧ rule.glob.isMatch path = true ∧ rule.name = name := by
  simp [matching, and_comm]

theorem decides_of_getLast?
    (h : ((matching rules path).filter (·.name = name)).getLast? = some rule) :
    Decides rules path rule ∧ rule.name = name := by
  obtain ⟨earlier, hlast⟩ := List.getLast?_eq_some_iff.1 h
  rw [matching, List.filter_filter, List.filter_eq_append_iff] at hlast
  obtain ⟨front, back, rfl, -, hback⟩ := hlast
  obtain ⟨skipped, after, rfl, -, hrule, hafter⟩ := List.filter_eq_cons_iff.1 hback
  simp only [Bool.and_eq_true, decide_eq_true_eq] at hrule
  obtain ⟨rfl, hmatch⟩ := hrule
  refine ⟨⟨front ++ skipped, after, by rw [List.append_assoc], hmatch, ?_⟩, rfl⟩
  intro later hlater hlaterMatch heq
  have hmem : later ∈ after.filter fun other => decide (other.name = rule.name) &&
      other.glob.isMatch path := by
    rw [List.mem_filter, heq, hlaterMatch]
    exact ⟨hlater, by simp⟩
  rw [hafter] at hmem
  cases hmem

/-- Every header has the value of the rule that decides it, or else the values it had. -/
theorem values_inject (rules : List HeaderRule) (path : String) (headers : HeaderMap)
    (name : HeaderName) :
    (∃ rule, Decides rules path rule ∧ rule.name = name ∧
      (inject rules path headers).values name = [rule.value]) ∨
    (∀ rule ∈ rules, rule.glob.isMatch path = true → rule.name ≠ name) ∧
      (inject rules path headers).values name = headers.values name := by
  rw [inject, values_foldl_set]
  cases hlast : ((matching rules path).filter (·.name = name)).getLast? with
  | some rule =>
    obtain ⟨hdecides, hname⟩ := decides_of_getLast? hlast
    exact .inl ⟨rule, hdecides, hname, rfl⟩
  | none =>
    refine .inr ⟨fun rule hrule hmatch hname => ?_, rfl⟩
    have hmem := mem_filter_matching.2 ⟨hrule, hmatch, hname⟩
    rw [List.getLast?_eq_none_iff.1 hlast] at hmem
    cases hmem

/-- Names are told apart without regard to the case of their letters. -/
theorem name_eq_iff {entry : HeaderEntry} {text : String} (hrule : ofEntry entry = .ok rule)
    (hname : HeaderName.ofText? text = some name) :
    rule.name = name ↔ entry.name.toList.map Char.toLower = text.toList.map Char.toLower := by
  rw [HeaderName.ofText?] at hname
  split at hname
  · cases hname
    rw [(of_ofEntry hrule).2.1, ← String.ofList_inj, String.ofList_toList]
    exact ⟨congrArg HeaderName.text, fun htext => HeaderName.eq_of_text htext⟩
  · cases hname

/-- Of the rules that match, each is counted, and the last one for a header decides it: the header
has its value and no other, while a header that no matching rule names, in whatever letter case,
keeps its values in order. Going through the rules again changes nothing. -/
theorem last_match_decides (rules : List HeaderRule) (path : String) (headers : HeaderMap) :
    (∀ response : Response, (ResponseHook.mk rules).inject path { response with headers } =
      ({ response with headers := (apply rules path headers).1 },
        if (apply rules path headers).2 = 0 then []
        else [.count .headerRulesApplied (apply rules path headers).2])) ∧
    apply rules path headers = (inject rules path headers, rules.countP (·.glob.isMatch path)) ∧
    (∀ name : HeaderName,
      (∃ rule, Decides rules path rule ∧ rule.name = name ∧
        (inject rules path headers).values name = [rule.value]) ∨
      (∀ rule ∈ rules, rule.glob.isMatch path = true → rule.name ≠ name) ∧
        (inject rules path headers).values name = headers.values name) ∧
    (∀ entry rule text name, ofEntry entry = .ok rule → HeaderName.ofText? text = some name →
      (rule.name = name ↔ entry.name.toList.map Char.toLower = text.toList.map Char.toLower)) ∧
    apply rules path (inject rules path headers) = apply rules path headers := by
  refine ⟨fun response => ?_, apply_eq rules path headers, values_inject rules path headers,
    fun entry rule text name => name_eq_iff, ?_⟩
  · rw [apply_eq, List.countP_eq_length_filter]
    rfl
  · rw [apply_eq, apply_eq, inject, inject, foldl_set_twice]

/-- A narrower rule overrides a broader one that names its header in other letters, and what the
origin has sent. -/
theorem last_match_decides_cache_control : ∃ (broad narrow other : HeaderRule) (headers : HeaderMap)
    (name kept : HeaderName),
    ofEntry ⟨"/**", "Cache-Control", "no-cache"⟩ = .ok broad ∧
    ofEntry ⟨"/**/*.{js,css}", "CACHE-control", "max-age=31536000"⟩ = .ok narrow ∧
    ofEntry ⟨"/img/*", "cache-control", "no-store"⟩ = .ok other ∧
    HeaderName.ofText? "cache-Control" = some name ∧ narrow.name = name ∧
    (headers.values name).length = 2 ∧ (headers.values kept).length = 2 ∧
    (inject [broad, narrow, other] "/static/app.js" headers).values name = [narrow.value] ∧
    (inject [broad, narrow, other] "/static/app.js" headers).values kept = headers.values kept ∧
    (apply [broad, narrow, other] "/static/app.js" headers).2 = 2 ∧
    apply [broad, narrow, other] "/static/app.js"
      (inject [broad, narrow, other] "/static/app.js" headers) =
      apply [broad, narrow, other] "/static/app.js" headers := by
  let name : HeaderName := ⟨"cache-control", by decide +kernel⟩
  let kept : HeaderName := ⟨"set-cookie", by decide +kernel⟩
  let broad : HeaderRule :=
    ⟨⟨"/**", [.literal ['/'], .withinLine]⟩, name, "no-cache", by decide +kernel⟩
  let narrow : HeaderRule :=
    ⟨⟨"/**/*.{js,css}", [.literal ['/'], .directories, .withinSegment, .literal ['.'],
      .oneOf ["js".toList, "css".toList]]⟩, name, "max-age=31536000", by decide +kernel⟩
  let other : HeaderRule :=
    ⟨⟨"/img/*", [.literal "/img/".toList, .withinSegment]⟩, name, "no-store", by decide +kernel⟩
  let value (text : String) (legal : (Utf8.encode text).all isHeaderByte = true) : HeaderValue :=
    ⟨_, legal⟩
  let headers : HeaderMap := ⟨[(name, value "max-age=60" (by decide +kernel)),
    (kept, value "a=1" (by decide +kernel)), (name, value "private" (by decide +kernel)),
    (kept, value "b=2" (by decide +kernel))]⟩
  have hnarrow : ofEntry ⟨"/**/*.{js,css}", "CACHE-control", "max-age=31536000"⟩ = .ok narrow := by
    decide +kernel
  have hname : HeaderName.ofText? "cache-Control" = some name := by decide +kernel
  obtain ⟨-, happly, hvalues, hsame, hagain⟩ :=
    last_match_decides [broad, narrow, other] "/static/app.js" headers
  have hkept : (inject [broad, narrow, other] "/static/app.js" headers).values kept =
      headers.values kept := by
    rcases hvalues kept with ⟨rule, ⟨before, after, hsplit, -, -⟩, hrule, -⟩ | ⟨-, hkept⟩
    · have hmem : rule ∈ [broad, narrow, other] :=
        hsplit ▸ List.mem_append_right _ List.mem_cons_self
      have hothers : ∀ rule ∈ [broad, narrow, other], rule.name ≠ kept := by decide +kernel
      exact absurd hrule (hothers rule hmem)
    · exact hkept
  exact ⟨broad, narrow, other, headers, name, kept, by decide +kernel, hnarrow,
    by decide +kernel, hname, (hsame _ narrow _ name hnarrow hname).2 (by decide +kernel), rfl, rfl,
    by decide +kernel, hkept, by rw [happly]; decide +kernel, hagain⟩

end EdgeRouting.HeaderRule
