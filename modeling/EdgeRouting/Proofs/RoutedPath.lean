import EdgeRouting.Hook.Resolution
import EdgeRouting.Proofs.CompiledBundle
import EdgeRouting.Proofs.PatternText
import EdgeRouting.Proofs.RuleMeaning
import EdgeRouting.Proofs.UriText

/-!
# The characters of a routed path

What a rule captures comes from the path, and all else that it gives comes from the literals of its
destination. So a routed path is again an absolute path without a query, and it is made of legal
characters as soon as the path and the destination are.
-/

namespace EdgeRouting

namespace Pattern

variable {legal : Char → Bool}

theorem Cuts.all_piece {tokens : List Token} {path : List Char} {pieces : List (List Char)}
    (h : Cuts tokens path pieces) (hpath : path.all legal = true) :
    ∀ piece ∈ pieces, piece.all legal = true := by
  intro piece hpiece
  rw [← h.1, List.all_flatten, List.all_eq_true] at hpath
  exact hpath piece hpiece

/-- Where the pieces are legal, the literals decide. -/
theorem all_fill?_iff {named : List (List Char × List Char)} {wild : List (List Char)}
    {tokens : List Token} {result : List Char}
    (hnamed : ∀ name piece, named.lookup name = some piece → piece.all legal = true)
    (hwild : ∀ piece ∈ wild, piece.all legal = true) (h : fill? named wild tokens = some result) :
    result.all legal = true ↔ ∀ text, .literal text ∈ tokens → text.all legal = true := by
  induction tokens generalizing wild result with
  | nil =>
    rw [fill?] at h
    cases h
    simp
  | cons token tokens ih =>
    cases token with
    | literal text =>
      rw [fill?] at h
      obtain ⟨rest, hrest, rfl⟩ := Option.map_eq_some_iff.1 h
      rw [List.all_append, Bool.and_eq_true, ih hwild hrest]
      simp
    | parameter name =>
      rw [fill?] at h
      obtain ⟨piece, hpiece, h⟩ := Option.bind_eq_some_iff.1 h
      obtain ⟨rest, hrest, h⟩ := Option.bind_eq_some_iff.1 h
      cases h
      rw [List.all_append, Bool.and_eq_true, ih hwild hrest,
        and_iff_right (hnamed name piece hpiece)]
      simp
    | wildcard =>
      cases wild with
      | nil =>
        rw [fill?] at h
        cases h
      | cons piece wild =>
        rw [fill?] at h
        obtain ⟨rest, hrest, rfl⟩ := Option.map_eq_some_iff.1 h
        have hlater : ∀ other ∈ wild, other.all legal = true := fun other hother =>
          hwild other (List.mem_cons_of_mem _ hother)
        rw [List.all_append, Bool.and_eq_true, ih hlater hrest,
          and_iff_right (hwild piece List.mem_cons_self)]
        simp

end Pattern

namespace Rule.IsCompiled

variable {rule : Rule} {path result : String}

/-- Characters that neither marks nor names can be: a routed path has them only from the path and
the destination. -/
theorem all_route?_iff (h : rule.IsCompiled) {legal : Char → Bool} (hcolon : legal ':' = true)
    (hasterisk : legal '*' = true) (hname : ∀ c, Pattern.isNameChar c = true → legal c = true)
    (hpath : path.toList.all legal = true) (hroute : rule.route? path = some result) :
    result.toList.all legal = true ↔ rule.destination.toList.all legal = true := by
  obtain ⟨pieces, hpieces, hfill⟩ :=
    ((Rule.compile_eq_ok_iff.1 h).route?_eq_some_iff path result).1 hroute
  have hall := hpieces.1.all_piece hpath
  rw [Pattern.all_fill?_iff
    (fun name piece hpiece =>
      hall piece (List.of_mem_zip (Pattern.mem_zip_of_lookup_named hpiece)).2)
    (fun piece hpiece => hall piece (List.of_mem_zip (Pattern.mem_zip_of_mem_wild hpiece)).2) hfill]
  exact Pattern.all_scan_iff hcolon hasterisk hname _

theorem notMem_route? (h : rule.IsCompiled) {mark : Char} (hcolon : mark ≠ ':')
    (hasterisk : mark ≠ '*') (hname : Pattern.isNameChar mark = false)
    (hdestination : mark ∉ rule.destination.toList) (hpath : mark ∉ path.toList)
    (hroute : rule.route? path = some result) : mark ∉ result.toList := by
  rw [← Uri.all_bne_iff] at hdestination hpath ⊢
  refine (h.all_route?_iff ?_ ?_ ?_ hpath hroute).2 hdestination
  · simpa using hcolon.symm
  · simpa using hasterisk.symm
  · rintro c hc
    rw [bne_iff_ne]
    rintro rfl
    rw [hname] at hc
    cases hc

/-- A destination begins with a slash, and this slash is not a captured one. -/
theorem head?_route? (h : rule.IsCompiled) (hroute : rule.route? path = some result) :
    result.toList.head? = some '/' := by
  have hpassed := Rule.compile_eq_ok_iff.1 h
  obtain ⟨pieces, -, hfill⟩ := (hpassed.route?_eq_some_iff path result).1 hroute
  obtain ⟨text, tokens, hscan⟩ := Pattern.scan_of_slash hpassed.destinationIsPath.1
  rw [hscan, Pattern.fill?] at hfill
  obtain ⟨rest, -, hresult⟩ := Option.map_eq_some_iff.1 hfill
  rw [← hresult]
  rfl

/-- What a rule gives for a path is an absolute path again, with no query and no fragment. -/
theorem isPath_route? (h : rule.IsCompiled) (hquestion : '?' ∉ path.toList)
    (hfragment : '#' ∉ path.toList) (hroute : rule.route? path = some result) :
    Pattern.IsPath result.toList := by
  obtain ⟨-, hquestion', hfragment'⟩ := (Rule.compile_eq_ok_iff.1 h).destinationIsPath
  exact ⟨h.head?_route? hroute,
    h.notMem_route? (by decide) (by decide) (by decide) hquestion' hquestion hroute,
    h.notMem_route? (by decide) (by decide) (by decide) hfragment' hfragment hroute⟩

end Rule.IsCompiled

/-- A match is the first one: no rule before it matches, and its index counts these rules. -/
theorem Rule.firstMatchFrom?_eq_some_iff {index : Nat} {path : String} {rules : List Rule}
    {found : Rule.Match} :
    Rule.firstMatchFrom? index path rules = some found ↔
      ∃ before after, rules = before ++ found.rule :: after ∧ found.index = index + before.length ∧
        (∀ earlier ∈ before, earlier.isMatch path = false) ∧
        found.rule.route? path = some found.path := by
  induction rules generalizing index with
  | nil => simp [Rule.firstMatchFrom?]
  | cons rule rules ih =>
    have hmatch := rule.route?_isSome path
    rw [Rule.firstMatchFrom?]
    cases hroute : rule.route? path with
    | some destination =>
      constructor
      · intro heq
        cases heq
        exact ⟨[], rules, rfl, rfl, by simp, hroute⟩
      · rintro ⟨before, after, hrules, hindex, hbefore, hfound⟩
        cases before with
        | nil =>
          cases hrules
          obtain ⟨index', rule', path'⟩ := found
          cases hindex
          cases hroute.symm.trans hfound
          rfl
        | cons earlier before =>
          cases hrules
          rw [hroute, hbefore _ List.mem_cons_self] at hmatch
          cases hmatch
    | none =>
      rw [hroute, Option.isSome_none] at hmatch
      dsimp only
      rw [ih]
      constructor
      · rintro ⟨before, after, rfl, hindex, hbefore, hfound⟩
        refine ⟨rule :: before, after, rfl, ?_,
          List.forall_mem_cons.2 ⟨hmatch.symm, hbefore⟩, hfound⟩
        rw [hindex, List.length_cons]
        omega
      · rintro ⟨before, after, hrules, hindex, hbefore, hfound⟩
        cases before with
        | nil =>
          cases hrules
          cases hroute.symm.trans hfound
        | cons earlier before =>
          cases hrules
          refine ⟨before, after, rfl, ?_, (List.forall_mem_cons.1 hbefore).2, hfound⟩
          rw [hindex, List.length_cons]
          omega

theorem Rule.of_firstMatch? {path : String} {rules : List Rule} {found : Rule.Match}
    (h : Rule.firstMatch? rules path = some found) :
    found.rule ∈ rules ∧ found.rule.route? path = some found.path := by
  obtain ⟨before, after, rfl, -, -, hroute⟩ := Rule.firstMatchFrom?_eq_some_iff.1 h
  exact ⟨List.mem_append_right _ List.mem_cons_self, hroute⟩

namespace IndexDocument

/-- A completed path is the path with one of three endings. -/
theorem complete_cases (path : String) :
    complete path = path ∧ '.' ∈ path.toList ∨ complete path = String.ofList (path.toList ++ name) ∨
      complete path = String.ofList (path.toList ++ '/' :: name) := by
  rw [complete]
  split
  · exact .inr (.inl rfl)
  · split
    case isTrue hdot => exact .inl ⟨rfl, hdot⟩
    case isFalse => exact .inr (.inr rfl)

theorem dot_mem_complete (path : String) : '.' ∈ (complete path).toList := by
  obtain ⟨h, hdot⟩ | h | h := complete_cases path
  · rw [h]
    exact hdot
  · rw [h, String.toList_ofList]
    exact List.mem_append_right _ (by decide)
  · rw [h, String.toList_ofList]
    exact List.mem_append_right _ (by decide)

theorem exists_ending (path : String) :
    ∃ ending, (complete path).toList = path.toList ++ ending ∧ ending.all isPathChar = true := by
  obtain ⟨h, -⟩ | h | h := complete_cases path
  · exact ⟨[], by simp [h], rfl⟩
  · exact ⟨name, by simp [h], by decide⟩
  · exact ⟨'/' :: name, by simp [h], by decide⟩

theorem all_complete_iff (path : String) :
    (complete path).toList.all isPathChar = true ↔ path.toList.all isPathChar = true := by
  obtain ⟨ending, hending, hlegal⟩ := exists_ending path
  rw [hending, List.all_append, hlegal, Bool.and_true]

theorem complete_ne_empty (path : String) : complete path ≠ "" := by
  intro hempty
  have hlist : (complete path).toList = [] := by
    rw [hempty]
    rfl
  obtain ⟨h, hdot⟩ | h | h := complete_cases path
  · rw [h] at hlist
    rw [hlist] at hdot
    cases hdot
  · rw [h, String.toList_ofList] at hlist
    exact absurd (List.append_eq_nil_iff.1 hlist).2 (by decide)
  · rw [h, String.toList_ofList] at hlist
    exact absurd (List.append_eq_nil_iff.1 hlist).2 (List.cons_ne_nil _ _)

theorem isPath_complete {path : String} (h : Pattern.IsPath path.toList) :
    Pattern.IsPath (complete path).toList := by
  obtain ⟨ending, hending, hlegal⟩ := exists_ending path
  obtain ⟨hslash, hquestion, hfragment⟩ := h
  rw [hending]
  refine ⟨by simp [List.head?_append, hslash], ?_, ?_⟩
  · rw [List.mem_append, not_or]
    exact ⟨hquestion, Uri.question_notMem_path hlegal⟩
  · rw [List.mem_append, not_or]
    exact ⟨hfragment, Uri.fragment_notMem_path hlegal⟩

end IndexDocument

namespace RequestHook

variable {hook : RequestHook} {path result : String}

def routed (path : String) : Option Rule.Match → String
  | some found => found.path
  | none => path

def completed (hook : RequestHook) (path : String) : String :=
  if hook.spaFallback then IndexDocument.complete path else path

theorem resolve_eq_redirect_iff {found : Rule.Match} :
    hook.resolve path = .redirect found ↔ Rule.firstMatch? hook.redirects path = some found := by
  rw [resolve]
  cases Rule.firstMatch? hook.redirects path <;> simp

theorem resolve_eq_forward_iff {rewrite : Option Rule.Match} :
    hook.resolve path = .forward result rewrite ↔
      Rule.firstMatch? hook.redirects path = none ∧ Rule.firstMatch? hook.rewrites path = rewrite ∧
        hook.completed (routed path rewrite) = result := by
  rw [resolve]
  cases Rule.firstMatch? hook.redirects path with
  | some found => simp
  | none =>
    cases Rule.firstMatch? hook.rewrites path
    all_goals
      dsimp only
      rw [Resolution.forward.injEq]
      constructor
      · rintro ⟨hresult, rfl⟩
        exact ⟨rfl, rfl, hresult⟩
      · rintro ⟨-, rfl, hresult⟩
        exact ⟨hresult, rfl⟩

theorem completed_eq_or (hook : RequestHook) (path : String) :
    hook.completed path = path ∨ hook.completed path = IndexDocument.complete path := by
  rw [completed]
  split
  · exact .inr rfl
  · exact .inl rfl

theorem all_completed_iff (hook : RequestHook) (path : String) :
    (hook.completed path).toList.all isPathChar = true ↔ path.toList.all isPathChar = true := by
  obtain h | h := hook.completed_eq_or path
  · rw [h]
  · rw [h, IndexDocument.all_complete_iff]

theorem isPath_completed (hook : RequestHook) (h : Pattern.IsPath path.toList) :
    Pattern.IsPath (hook.completed path).toList := by
  obtain hcompleted | hcompleted := hook.completed_eq_or path
  · rw [hcompleted]
    exact h
  · rw [hcompleted]
    exact IndexDocument.isPath_complete h

/-- A path that goes on is an absolute path again, or a completion of the path that came. -/
theorem IsCompiled.isPath_or_complete (hhook : hook.IsCompiled) {rewrite : Option Rule.Match}
    (hquestion : '?' ∉ path.toList) (hfragment : '#' ∉ path.toList)
    (h : hook.resolve path = .forward result rewrite) :
    Pattern.IsPath result.toList ∨ result = path ∨ result = IndexDocument.complete path := by
  obtain ⟨-, hrewrite, rfl⟩ := resolve_eq_forward_iff.1 h
  cases rewrite with
  | none => exact .inr (hook.completed_eq_or path)
  | some found =>
    obtain ⟨hmem, hroute⟩ := Rule.of_firstMatch? hrewrite
    exact .inl
      (hook.isPath_completed ((hhook.rewrites _ hmem).isPath_route? hquestion hfragment hroute))

end RequestHook

end EdgeRouting
