import EdgeRouting.Proofs.GlobExpansion

/-!
# Wider stars

A star in a glob may be doubled: whatever the glob matches within a line, the wider glob matches
too. The text behind the star is grouped anew, since two stars take the slash behind them, and the
text before it reads as before.
-/

namespace EdgeRouting.Glob

def widened (first second : List Token) : String :=
  String.ofList (written first ++ '*' :: '*' :: written second)

variable {c : Char} {text rest path : List Char} {tokens others first second : List Token}

theorem Reads.behind (h : Reads text (first ++ second)) : Reads (written second) second := by
  induction first generalizing text with
  | nil =>
    rw [List.nil_append] at h
    rw [h.written_eq]
    exact h
  | cons token first ih =>
    cases h with
    | literal _ _ _ hrest => exact ih hrest
    | star _ hrest => exact ih hrest
    | doubleStar _ hrest => exact ih hrest
    | directories hrest => exact ih hrest
    | group _ hrest => exact ih hrest

theorem head?_append_congr {after after' : List Char} (h : after.head? = after'.head?)
    (before : List Char) : (before ++ after).head? = (before ++ after').head? := by
  cases before with
  | nil => exact h
  | cons c before => rfl

/-- What stands behind some tokens may be replaced, if what takes its place begins with the same
character: a token looks no further ahead. -/
theorem Reads.replace_behind (h : Reads text (first ++ second))
    (hhead : (written second).head? = rest.head?) (hrest : Reads rest others) :
    Reads (written first ++ rest) (first ++ others) := by
  induction first generalizing text with
  | nil => exact hrest
  | cons token first ih =>
    have hnext : (written (first ++ second)).head? = (written first ++ rest).head? := by
      rw [written_append]
      exact head?_append_congr hhead _
    rw [List.cons_append] at h
    rw [written_cons, List.append_assoc, List.cons_append]
    cases h with
    | literal hne hplain hend hbehind =>
      rw [← hbehind.written_eq, hnext] at hend
      exact .literal hne hplain hend (ih hbehind)
    | star hend hbehind =>
      rw [← hbehind.written_eq, hnext] at hend
      exact .star hend (ih hbehind)
    | doubleStar hend hbehind =>
      rw [← hbehind.written_eq, hnext] at hend
      exact .doubleStar hend (ih hbehind)
    | directories hbehind => exact .directories (ih hbehind)
    | group hgroup hbehind =>
      rw [text_group_append]
      exact .group hgroup (ih hbehind)

theorem Reads.exists_of_literal (hc : c ∉ operators) (h : Reads (c :: rest) tokens) :
    ∃ behind, Reads rest behind ∧ tokens = Token.cons c behind := by
  have hscan := h.scan_eq 0
  rw [scan_literal 0 hc, Accepted.bind_eq_ok_iff] at hscan
  obtain ⟨behind, hbehind, htokens⟩ := hscan
  exact ⟨behind, reads_of_scan hbehind, (Except.ok.inj htokens).symm⟩

theorem isConcatenation_append (first second : List Token) :
    IsConcatenation first second (first ++ second) := by
  induction first with
  | nil => exact .nil second
  | cons token first ih => exact ih.cons token

theorem covers_append_mono (h : ∀ path, '\n' ∉ path → Covers second path → Covers others path)
    (hline : '\n' ∉ path) (hcovers : Covers (first ++ second) path) :
    Covers (first ++ others) path := by
  rw [(isConcatenation_append first second).covers] at hcovers
  obtain ⟨front, back, rfl, hfront, hback⟩ := hcovers
  rw [List.mem_append, not_or] at hline
  rw [(isConcatenation_append first others).covers]
  exact ⟨front, back, rfl, hfront, h back hline.2 hback⟩

theorem covers_doubleStar_of_star (hline : '\n' ∉ path) (h : Covers (.star :: tokens) path) :
    Covers (.doubleStar :: tokens) path := by
  obtain ⟨piece, rest, rfl, -, hrest⟩ := covers_cons.1 h
  rw [List.mem_append, not_or] at hline
  exact covers_cons.2 ⟨piece, rest, rfl, hline.1, hrest⟩

theorem covers_directories_of_star (hline : '\n' ∉ path)
    (h : Covers (.star :: Token.cons '/' tokens) path) : Covers (.directories :: tokens) path := by
  obtain ⟨piece, rest, rfl, -, hrest⟩ := covers_cons.1 h
  obtain ⟨back, rfl, hback⟩ := covers_tokenCons.1 hrest
  rw [List.mem_append, not_or] at hline
  have hpiece : Token.directories.Admits (piece ++ ['/']) := .inr ⟨piece, hline.1, rfl⟩
  exact covers_cons.2 ⟨piece ++ ['/'], back, List.append_cons piece '/' back, hpiece, hback⟩

/-- Two stars take a slash behind them with them, so the text behind the star is read in another way
if it begins with one. -/
theorem Reads.exists_wider (h : Reads text (.star :: second)) :
    ∃ wide, Reads ('*' :: text) wide ∧ ∀ path, '\n' ∉ path → Covers (.star :: second) path →
      Covers wide path := by
  cases h with
  | @star rest _ _ hrest =>
    by_cases hslash : rest.head? = some '/'
    · obtain ⟨after, rfl⟩ := List.head?_eq_some_iff.1 hslash
      obtain ⟨behind, hbehind, rfl⟩ := hrest.exists_of_literal (by simp [operators])
      exact ⟨.directories :: behind, .directories hbehind, fun path => covers_directories_of_star⟩
    · exact ⟨.doubleStar :: second, .doubleStar hslash hrest, fun path => covers_doubleStar_of_star⟩

theorem Reads.exists_widened (h : Reads text (first ++ .star :: second)) :
    ∃ wide, Reads (written first ++ '*' :: '*' :: written second) wide ∧
      ∀ path, '\n' ∉ path → Covers (first ++ .star :: second) path → Covers wide path := by
  have hstar : Reads ('*' :: written second) (.star :: second) := h.behind
  obtain ⟨wide, hwide, hcovers⟩ := hstar.exists_wider
  refine ⟨first ++ wide, h.replace_behind rfl hwide, ?_⟩
  intro path hline
  exact covers_append_mono hcovers hline

/-- A star anywhere in a glob, outside of its groups, may be replaced by two stars. The new glob is
accepted unless its expression is too large, and it matches every path without a line end that the
glob matches. -/
theorem widened_matches_more {text : String} {first second : List Token}
    (hreads : Reads text.toList (first ++ .star :: second)) :
    text.toList = written first ++ '*' :: written second ∧
    (∃ wide, Reads (widened first second).toList wide ∧
      compile (widened first second) =
        if Expression.sizeLimit < Expression.weight (wide.map Token.part) then
          .error (.expressionTooLarge Expression.sizeLimit)
        else .ok { text := widened first second, expression := wide.map Token.part }) ∧
    ∀ glob wide, compile text = .ok glob → compile (widened first second) = .ok wide →
      ∀ path : String, '\n' ∉ path.toList → glob.isMatch path = true →
      wide.isMatch path = true := by
  obtain ⟨tokens, htokens, hcovers⟩ := hreads.exists_widened
  have hwidened : Reads (widened first second).toList tokens := by
    rw [widened, String.toList_ofList]
    exact htokens
  refine ⟨?_, ⟨tokens, hwidened, hwidened.compile_eq⟩, ?_⟩
  · rw [← hreads.written_eq, written_append]
    rfl
  · intro glob wide hglob hwide path hline hpath
    rw [isMatch_iff_covers hglob hreads] at hpath
    rw [isMatch_iff_covers hwide hwidened]
    exact hcovers path.toList hline hpath

/-- A star that stands directly behind two stars and in front of a slash. What stood for it becomes
a directory. -/
theorem widened_behind_stars : ∃ glob wide first second,
    Reads "/***/x".toList (first ++ .star :: second) ∧ widened first second = "/****/x" ∧
    compile "/***/x" = .ok glob ∧ compile "/****/x" = .ok wide ∧
    glob.isMatch "/a/b/x" = true ∧ wide.isMatch "/a/b/x" = true := by
  have hglob : compile "/***/x" = .ok {
      text := "/***/x"
      expression := [.literal ['/'], .withinLine, .withinSegment, .literal ['/', 'x']] } := by
    decide +kernel
  have hwide : compile "/****/x" = .ok {
      text := "/****/x"
      expression := [.literal ['/'], .withinLine, .directories, .literal ['x']] } := by
    decide +kernel
  have hscan : scan 0 "/***/x".toList =
      .ok ([.literal ['/'], .doubleStar] ++ .star :: [.literal ['/', 'x']]) := by
    decide +kernel
  have hreads := reads_of_scan hscan
  obtain ⟨-, -, hmore⟩ := widened_matches_more hreads
  have hpath := (isMatch_iff_covers hglob hreads "/a/b/x").2
    ⟨[['/'], ['a', '/'], ['b'], ['/', 'x']], by simp [Cuts, CutsAlong, Token.Admits]⟩
  exact ⟨_, _, _, _, hreads, rfl, hglob, hwide, hpath,
    hmore _ _ hglob hwide "/a/b/x" (by simp) hpath⟩

end EdgeRouting.Glob
