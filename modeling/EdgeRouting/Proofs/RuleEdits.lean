import EdgeRouting.Proofs.RedirectAnswer

/-!
# Changing the rules

A path is resolved by the first rule of each list that matches it. A change of the lists that
neither inserts nor deletes a matching rule moves the rule that is found to another place and does
nothing else; behind this rule the lists may change in any way.
-/

namespace EdgeRouting

/-- One step of a change to a list of rules, which is made from the front of the list to its end. -/
inductive RuleEdit
  | keep (rule : Rule)
  | insert (rule : Rule)
  | delete (rule : Rule)
  deriving DecidableEq

namespace RuleEdit

def given : List RuleEdit → List Rule
  | [] => []
  | keep rule :: edits | delete rule :: edits => rule :: given edits
  | insert _ :: edits => given edits

def edited : List RuleEdit → List Rule
  | [] => []
  | keep rule :: edits | insert rule :: edits => rule :: edited edits
  | delete _ :: edits => edited edits

def insertions : List RuleEdit → Nat
  | [] => 0
  | insert _ :: edits => insertions edits + 1
  | keep _ :: edits | delete _ :: edits => insertions edits

def deletions : List RuleEdit → Nat
  | [] => 0
  | delete _ :: edits => deletions edits + 1
  | keep _ :: edits | insert _ :: edits => deletions edits

/-- No rule that is inserted or deleted matches the path. -/
def SparesMatches (path : String) (edits : List RuleEdit) : Prop :=
  ∀ rule, insert rule ∈ edits ∨ delete rule ∈ edits → rule.isMatch path = false

variable {path : String} {edits earlier later : List RuleEdit} {rule : Rule}

theorem given_append (earlier later : List RuleEdit) :
    given (earlier ++ later) = given earlier ++ given later := by
  induction earlier with
  | nil => rfl
  | cons edit earlier ih => cases edit <;> simp [given, ih]

theorem edited_append (earlier later : List RuleEdit) :
    edited (earlier ++ later) = edited earlier ++ edited later := by
  induction earlier with
  | nil => rfl
  | cons edit earlier ih => cases edit <;> simp [edited, ih]

theorem length_edited (edits : List RuleEdit) :
    (edited edits).length + deletions edits = (given edits).length + insertions edits := by
  induction edits with
  | nil => rfl
  | cons edit edits ih =>
    cases edit <;> simp only [edited, given, deletions, insertions, List.length_cons] <;> omega

theorem mem_given_iff : rule ∈ given edits ↔ keep rule ∈ edits ∨ delete rule ∈ edits := by
  induction edits with
  | nil => simp [given]
  | cons edit edits ih => cases edit <;> simp [given, ih, or_assoc, or_left_comm]

theorem mem_edited_iff : rule ∈ edited edits ↔ keep rule ∈ edits ∨ insert rule ∈ edits := by
  induction edits with
  | nil => simp [edited]
  | cons edit edits ih => cases edit <;> simp [edited, ih, or_assoc, or_left_comm]

theorem first_kept (path : String) (edits : List RuleEdit) :
    (∀ rule, keep rule ∈ edits → rule.isMatch path = false) ∨
    ∃ earlier rule later, edits = earlier ++ keep rule :: later ∧ rule.isMatch path = true ∧
      ∀ other, keep other ∈ earlier → other.isMatch path = false := by
  induction edits with
  | nil => exact .inl fun rule hmem => absurd hmem List.not_mem_nil
  | cons edit edits ih =>
    by_cases hfirst : ∃ rule, edit = keep rule ∧ rule.isMatch path = true
    · obtain ⟨rule, rfl, hmatch⟩ := hfirst
      exact .inr ⟨[], rule, edits, rfl, hmatch, fun other hmem => absurd hmem List.not_mem_nil⟩
    have hedit : ∀ rule, keep rule = edit → rule.isMatch path = false := by
      intro rule heq
      by_contra hmatch
      exact hfirst ⟨rule, heq.symm, by simpa using hmatch⟩
    obtain hnone | ⟨earlier, rule, later, rfl, hmatch, hearlier⟩ := ih
    · left
      intro rule hmem
      rcases List.mem_cons.1 hmem with heq | hmem
      · exact hedit rule heq
      · exact hnone rule hmem
    · right
      refine ⟨edit :: earlier, rule, later, rfl, hmatch, ?_⟩
      intro other hmem
      rcases List.mem_cons.1 hmem with heq | hmem
      · exact hedit other heq
      · exact hearlier other hmem

/-- What a change keeps and what it inserts or deletes is all that stands in the two lists. -/
theorem SparesMatches.forall_isMatch (h : SparesMatches path edits)
    (hkept : ∀ rule, keep rule ∈ edits → rule.isMatch path = false) :
    (∀ rule ∈ given edits, rule.isMatch path = false) ∧ ∀ rule ∈ edited edits,
      rule.isMatch path = false := by
  constructor
  · intro rule hmem
    rcases mem_given_iff.1 hmem with hkeep | hdelete
    · exact hkept rule hkeep
    · exact h rule (.inr hdelete)
  · intro rule hmem
    rcases mem_edited_iff.1 hmem with hkeep | hinsert
    · exact hkept rule hkeep
    · exact h rule (.inl hinsert)

theorem SparesMatches.of_append (h : SparesMatches path (earlier ++ later)) :
    SparesMatches path earlier := by
  intro rule hmem
  apply h
  simp only [List.mem_append]
  tauto

end RuleEdit

namespace Rule

variable {path : String} {rules : List Rule} {edits : List RuleEdit}

theorem firstMatchFrom?_eq_none_iff {index : Nat} :
    firstMatchFrom? index path rules = none ↔ ∀ rule ∈ rules, rule.isMatch path = false := by
  induction rules generalizing index with
  | nil => simp [firstMatchFrom?]
  | cons rule rules ih =>
    have hmatch := rule.route?_isSome path
    rw [firstMatchFrom?]
    cases hroute : rule.route? path with
    | some target =>
      rw [hroute] at hmatch
      simp [← hmatch]
    | none =>
      rw [hroute] at hmatch
      simp [← hmatch, ih]

theorem firstMatch?_eq_none_iff :
    firstMatch? rules path = none ↔ ∀ rule ∈ rules, rule.isMatch path = false :=
  firstMatchFrom?_eq_none_iff

theorem firstMatch?_of_first {before after : List Rule} {rule : Rule} {target : String}
    (hbefore : ∀ earlier ∈ before, earlier.isMatch path = false)
    (hroute : rule.route? path = some target) :
    firstMatch? (before ++ rule :: after) path = some ⟨before.length, rule, target⟩ :=
  firstMatchFrom?_eq_some_iff.2 ⟨before, after, rfl, (Nat.zero_add _).symm, hbefore, hroute⟩

theorem exists_route? {rule : Rule} (h : rule.isMatch path = true) :
    ∃ target, rule.route? path = some target := by
  rw [← rule.route?_isSome] at h
  exact Option.isSome_iff_exists.1 h

/-- A change that spares the matching rules leaves the first of them the first, at a place that is
counted by what was inserted and deleted before it. -/
theorem firstMatch?_edited (h : RuleEdit.SparesMatches path edits) :
    (firstMatch? (RuleEdit.given edits) path = none ∧
      firstMatch? (RuleEdit.edited edits) path = none) ∨
    ∃ earlier rule later target, edits = earlier ++ .keep rule :: later ∧
      firstMatch? (RuleEdit.given edits) path =
        some ⟨(RuleEdit.given earlier).length, rule, target⟩ ∧
      firstMatch? (RuleEdit.edited edits) path =
        some ⟨(RuleEdit.edited earlier).length, rule, target⟩ := by
  obtain hnone | ⟨earlier, rule, later, rfl, hmatch, hearlier⟩ := RuleEdit.first_kept path edits
  · left
    obtain ⟨hgiven, hedited⟩ := h.forall_isMatch hnone
    exact ⟨firstMatch?_eq_none_iff.2 hgiven, firstMatch?_eq_none_iff.2 hedited⟩
  · right
    obtain ⟨target, hroute⟩ := exists_route? hmatch
    obtain ⟨hgiven, hedited⟩ := h.of_append.forall_isMatch hearlier
    refine ⟨earlier, rule, later, target, rfl, ?_, ?_⟩
    · rw [RuleEdit.given_append]
      exact firstMatch?_of_first hgiven hroute
    · rw [RuleEdit.edited_append]
      exact firstMatch?_of_first hedited hroute

/-- What stands behind a rule that matches is never reached. -/
theorem firstMatchFrom?_append_cons {rule : Rule} (h : rule.isMatch path = true) (index : Nat)
    (before after other : List Rule) :
    firstMatchFrom? index path (before ++ rule :: other) =
      firstMatchFrom? index path (before ++ rule :: after) := by
  induction before generalizing index with
  | nil =>
    obtain ⟨target, hroute⟩ := exists_route? h
    simp only [List.nil_append, firstMatchFrom?, hroute]
  | cons earlier before ih => simp only [List.cons_append, firstMatchFrom?, ih]

end Rule

namespace RequestHook

open RuleEdit

variable {hook : RequestHook} {path : String}

theorem resolve_edited {redirects rewrites : List RuleEdit}
    (hredirects : given redirects = hook.redirects) (hrewrites : given rewrites = hook.rewrites)
    (hspared : SparesMatches path redirects) (hspared' : SparesMatches path rewrites) :
    (∀ found, hook.resolve path = .redirect found → ∃ earlier later index,
      redirects = earlier ++ .keep found.rule :: later ∧ found.index = (given earlier).length ∧
      index + deletions earlier = found.index + insertions earlier ∧
      { hook with redirects := edited redirects, rewrites := edited rewrites }.resolve path =
        .redirect { found with index }) ∧
    ∀ result rewrite, hook.resolve path = .forward result rewrite → ∃ rewrite' : Option Rule.Match,
      rewrite'.map (·.rule) = rewrite.map (·.rule) ∧
      { hook with redirects := edited redirects, rewrites := edited rewrites }.resolve path =
        .forward result rewrite' := by
  have hredirect := Rule.firstMatch?_edited hspared
  have hrewrite := Rule.firstMatch?_edited hspared'
  rw [hredirects] at hredirect
  rw [hrewrites] at hrewrite
  constructor
  · intro found hresolve
    have hfound := resolve_eq_redirect_iff.1 hresolve
    obtain ⟨hnone, -⟩ | ⟨earlier, rule, later, target, hedits, hgiven, hedited⟩ := hredirect
    · rw [hnone] at hfound
      cases hfound
    · rw [hgiven] at hfound
      cases hfound
      exact ⟨earlier, later, (edited earlier).length, hedits, rfl, length_edited earlier,
        resolve_eq_redirect_iff.2 hedited⟩
  · intro result rewrite hresolve
    obtain ⟨hnone, hfound, hresult⟩ := resolve_eq_forward_iff.1 hresolve
    have hnone' : Rule.firstMatch? (edited redirects) path = none := by
      obtain ⟨-, hedited⟩ | ⟨_, _, _, _, -, hgiven, -⟩ := hredirect
      · exact hedited
      · rw [hnone] at hgiven
        cases hgiven
    obtain ⟨hgiven, hedited⟩ | ⟨earlier, rule, later, target, -, hgiven, hedited⟩ := hrewrite
    · rw [hgiven] at hfound
      cases hfound
      exact ⟨none, rfl, resolve_eq_forward_iff.2 ⟨hnone', hedited, hresult⟩⟩
    · rw [hgiven] at hfound
      cases hfound
      exact ⟨some ⟨(edited earlier).length, rule, target⟩, rfl,
        resolve_eq_forward_iff.2 ⟨hnone', hedited, hresult⟩⟩

theorem resolve_behind_match {rule : Rule} (hmatch : rule.isMatch path = true)
    (before after other : List Rule) :
    (hook.redirects = before ++ rule :: after →
      { hook with redirects := before ++ rule :: other }.resolve path = hook.resolve path) ∧
    (hook.rewrites = before ++ rule :: after →
      { hook with rewrites := before ++ rule :: other }.resolve path = hook.resolve path) := by
  have hfirst : Rule.firstMatch? (before ++ rule :: other) path =
      Rule.firstMatch? (before ++ rule :: after) path :=
    Rule.firstMatchFrom?_append_cons hmatch 0 before after other
  constructor
  · intro hredirects
    unfold resolve
    rw [hredirects, hfirst]
  · intro hrewrites
    unfold resolve
    rw [hrewrites, hfirst]

theorem resolve_of_redirect_match (h : ∃ rule ∈ hook.redirects, rule.isMatch path = true) :
    ∃ before rule after target, hook.redirects = before ++ rule :: after ∧
      (∀ earlier ∈ before, earlier.isMatch path = false) ∧ rule.route? path = some target ∧
      ∀ rewrites spaFallback,
        { hook with rewrites, spaFallback }.resolve path =
          .redirect ⟨before.length, rule, target⟩ := by
  cases hfound : Rule.firstMatch? hook.redirects path with
  | none =>
    obtain ⟨rule, hmem, hmatch⟩ := h
    rw [Rule.firstMatch?_eq_none_iff.1 hfound rule hmem] at hmatch
    cases hmatch
  | some found =>
    obtain ⟨before, after, hrules, -, hbefore, hroute⟩ := Rule.firstMatchFrom?_eq_some_iff.1 hfound
    refine ⟨before, found.rule, after, found.path, hrules, hbefore, hroute, ?_⟩
    intro rewrites spaFallback
    rw [resolve_eq_redirect_iff]
    dsimp only
    rw [hrules]
    exact Rule.firstMatch?_of_first hbefore hroute

theorem resolve_of_no_redirect (h : ∀ rule ∈ hook.redirects, rule.isMatch path = false) :
    ∃ effective rewrite,
      hook.resolve path = .forward
        (if hook.spaFallback then IndexDocument.complete effective else effective) rewrite ∧
      (rewrite.isSome = true ↔ ∃ rule ∈ hook.rewrites, rule.isMatch path = true) ∧
      (∀ rule target, Rule.IsFirst hook.rewrites path rule target → effective = target) ∧
      ((∀ rule ∈ hook.rewrites, rule.isMatch path = false) → effective = path) := by
  refine ⟨routed path (Rule.firstMatch? hook.rewrites path), Rule.firstMatch? hook.rewrites path,
    ?_, ?_, ?_, ?_⟩
  · exact resolve_eq_forward_iff.2 ⟨Rule.firstMatch?_eq_none_iff.2 h, rfl, rfl⟩
  · rw [← not_iff_not, Bool.not_eq_true, Option.isSome_eq_false_iff, Option.isNone_iff_eq_none,
      Rule.firstMatch?_eq_none_iff]
    simp
  · intro rule target hfirst
    obtain ⟨index, hfound⟩ := Rule.isFirst_iff.1 hfirst
    rw [hfound]
    rfl
  · intro hnone
    rw [Rule.firstMatch?_eq_none_iff.2 hnone]
    rfl

/-- The outcome depends on the first rule of each list that matches the path. Changes that spare the
matching rules leave it as it is, but for the place of a redirect, which counts what is inserted and
deleted before it. Behind a rule that matches anything may change. A redirect leaves nothing to the
rewrites and the index document; without one, the output of the first rewrite, or else the path
itself, is completed once and goes on. -/
theorem resolves_by_first_match (hook : RequestHook) (path : String) :
    (∀ redirects rewrites : List RuleEdit, given redirects = hook.redirects →
      given rewrites = hook.rewrites →
      SparesMatches path redirects → SparesMatches path rewrites →
      (∀ found, hook.resolve path = .redirect found → ∃ earlier later index,
        redirects = earlier ++ .keep found.rule :: later ∧ found.index = (given earlier).length ∧
        index + deletions earlier = found.index + insertions earlier ∧
        { hook with redirects := edited redirects, rewrites := edited rewrites }.resolve path =
          .redirect { found with index }) ∧
      ∀ result rewrite, hook.resolve path = .forward result rewrite →
      ∃ rewrite' : Option Rule.Match,
        rewrite'.map (·.rule) = rewrite.map (·.rule) ∧
        { hook with redirects := edited redirects, rewrites := edited rewrites }.resolve path =
          .forward result rewrite') ∧
    (∀ rule : Rule, rule.isMatch path = true → ∀ before after other : List Rule,
      (hook.redirects = before ++ rule :: after →
        { hook with redirects := before ++ rule :: other }.resolve path = hook.resolve path) ∧
      (hook.rewrites = before ++ rule :: after →
        { hook with rewrites := before ++ rule :: other }.resolve path = hook.resolve path)) ∧
    ((∃ rule ∈ hook.redirects, rule.isMatch path = true) → ∃ before rule after target,
      hook.redirects = before ++ rule :: after ∧
      (∀ earlier ∈ before, earlier.isMatch path = false) ∧
      rule.route? path = some target ∧
      ∀ rewrites spaFallback,
        { hook with rewrites, spaFallback }.resolve path =
          .redirect ⟨before.length, rule, target⟩) ∧
    ((∀ rule ∈ hook.redirects, rule.isMatch path = false) → ∃ effective rewrite,
      hook.resolve path = .forward
        (if hook.spaFallback then IndexDocument.complete effective else effective) rewrite ∧
      (rewrite.isSome = true ↔ ∃ rule ∈ hook.rewrites, rule.isMatch path = true) ∧
      (∀ rule target, Rule.IsFirst hook.rewrites path rule target → effective = target) ∧
      ((∀ rule ∈ hook.rewrites, rule.isMatch path = false) → effective = path)) := by
  refine ⟨?_, ?_, resolve_of_redirect_match, resolve_of_no_redirect⟩
  · intro redirects rewrites hredirects hrewrites hspared hspared'
    exact resolve_edited hredirects hrewrites hspared hspared'
  · intro rule hmatch before after other
    exact resolve_behind_match hmatch before after other

/-- Two rules are inserted before a redirect and one is deleted, so it moves by one place; any rule
may follow it. Another path is completed once, behind its rewrite. -/
theorem resolves_moved_redirect : ∃ (hook : RequestHook) (edits : List RuleEdit) (rule : Rule),
    RequestHook.compile {
      redirects := [⟨"/gone", "/"⟩, ⟨"/old/*", "/new/*"⟩]
      rewrites := [⟨"/:page", "/pages/:page"⟩] } = .ok hook ∧
    given edits = hook.redirects ∧ insertions edits = 2 ∧ deletions edits = 1 ∧
    SparesMatches "/old/a" edits ∧
    hook.resolve "/old/a" = .redirect ⟨1, rule, "/new/a"⟩ ∧
    { hook with redirects := edited edits }.resolve "/old/a" = .redirect ⟨2, rule, "/new/a"⟩ ∧
    (∀ other,
      { hook with redirects := hook.redirects ++ other }.resolve "/old/a" = hook.resolve "/old/a") ∧
    (∀ rewrites spaFallback,
      { hook with rewrites, spaFallback }.resolve "/old/a" = hook.resolve "/old/a") ∧
    ∃ rewrite, hook.resolve "/about" = .forward "/pages/about/index.html" rewrite ∧
    rewrite.isSome = true := by
  let gone : Rule := ⟨"/gone", "/", [.literal "/gone".toList], [], [.literal "/"]⟩
  let old : Rule := ⟨"/old/*", "/new/*", [.literal "/old/".toList, .wildcard], [.wildcard 0],
    [.literal "/new/", .capture 0]⟩
  let page : Rule := ⟨"/:page", "/pages/:page", [.literal ['/'], .parameter], [.parameter "page"],
    [.literal "/pages/", .capture 0]⟩
  let hook : RequestHook := { redirects := [gone, old], rewrites := [page] }
  let edits : List RuleEdit := [.insert page, .delete gone, .insert gone, .keep old]
  have hcompile : RequestHook.compile {
      redirects := [⟨"/gone", "/"⟩, ⟨"/old/*", "/new/*"⟩]
      rewrites := [⟨"/:page", "/pages/:page"⟩] } = .ok hook := by decide +kernel
  have hgone : gone.isMatch "/old/a" = false := by decide +kernel
  have hpage : page.isMatch "/old/a" = false := by decide +kernel
  have hold : old.isMatch "/old/a" = true := by decide +kernel
  have hspared : SparesMatches "/old/a" edits := by
    intro rule hmem
    have hrule : rule = page ∨ rule = gone := by
      simpa [edits, or_assoc, or_comm, or_left_comm] using hmem
    rcases hrule with rfl | rfl
    · exact hpage
    · exact hgone
  have hkept : SparesMatches "/old/a" [.keep page] := by
    intro rule hmem
    simp at hmem
  have hresolve : hook.resolve "/old/a" = .redirect ⟨1, old, "/new/a"⟩ := by decide +kernel
  obtain ⟨hedit, hbehind, hredirect, -⟩ := resolves_by_first_match hook "/old/a"
  obtain ⟨-, -, -, hforward⟩ := resolves_by_first_match hook "/about"
  obtain ⟨hmoved, -⟩ := hedit edits [.keep page] rfl rfl hspared hkept
  obtain ⟨earlier, later, index, hedits, hindex, hcount, hmoved⟩ := hmoved _ hresolve
  have hearlier : earlier = [.insert page, .delete gone, .insert gone] := by
    rcases earlier with - | ⟨first, - | ⟨second, - | ⟨third, - | ⟨fourth, earlier⟩⟩⟩⟩
    all_goals simp [edits] at hedits
    obtain ⟨rfl, rfl, rfl, -⟩ := hedits
    rfl
  obtain rfl : index = 2 := by
    rw [hearlier] at hcount
    exact Nat.succ.inj hcount
  obtain ⟨before, rule, after, target, -, -, -, hany⟩ := hredirect ⟨old, by simp [hook], hold⟩
  obtain ⟨effective, rewrite, hcompleted, hrewrite, hfirst, -⟩ := hforward (by decide +kernel)
  obtain rfl := hfirst page "/pages/about" ⟨[], [], rfl, by simp, by decide +kernel⟩
  have hindexed : IndexDocument.complete "/pages/about" = "/pages/about/index.html" := by
    decide +kernel
  refine ⟨hook, edits, old, hcompile, rfl, rfl, rfl, hspared, hresolve, hmoved, ?_, ?_,
    rewrite, ?_, ?_⟩
  · intro other
    exact (hbehind old hold [gone] [] other).1 rfl
  · intro rewrites spaFallback
    exact (hany rewrites spaFallback).trans (hany hook.rewrites hook.spaFallback).symm
  · rw [hcompleted, ← hindexed]
    rfl
  · exact hrewrite.2 ⟨page, by simp [hook], by decide +kernel⟩

end RequestHook

end EdgeRouting
