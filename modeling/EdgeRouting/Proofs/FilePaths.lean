import EdgeRouting.Proofs.RoutedPath
import Mathlib.Logic.Function.Iterate

/-!
# Paths that name a file

With the index document in use, every path that goes on names a file, whatever the rules have made
of it: it is absolute, has a dot and does not end in a slash. Such a path is complete, so no index
document is ever added to it again.
-/

namespace EdgeRouting

namespace IndexDocument

structure NamesFile (path : String) : Prop where
  absolute : path.toList.head? = some '/'
  notDirectory : path.toList.getLast? ≠ some '/'
  dot : '.' ∈ path.toList

theorem complete_eq_self {path : String} (hlast : path.toList.getLast? ≠ some '/')
    (hdot : '.' ∈ path.toList) : complete path = path := by
  rw [complete, if_neg hlast, if_pos hdot]

theorem getLast?_append_name (text : List Char) : (text ++ name).getLast? = some 'l' := by
  rw [List.getLast?_append]
  rfl

theorem getLast?_complete (path : String) : (complete path).toList.getLast? ≠ some '/' := by
  rw [complete]
  split
  · rw [String.toList_ofList, getLast?_append_name]
    simp
  · split
    · assumption
    · rw [String.toList_ofList, List.append_cons, getLast?_append_name]
      simp

theorem complete_complete (path : String) : complete (complete path) = complete path :=
  complete_eq_self (getLast?_complete path) (dot_mem_complete path)

theorem iterate_complete (n : Nat) (path : String) : complete^[n + 1] path = complete path := by
  rw [Function.iterate_succ_apply]
  exact Function.iterate_fixed (complete_complete path) n

theorem head?_complete {path : String} (h : path.toList.head? = some '/') :
    (complete path).toList.head? = some '/' := by
  obtain ⟨ending, hending, -⟩ := exists_ending path
  rw [hending, List.head?_append, h]
  rfl

theorem namesFile_complete {path : String} (h : path.toList.head? = some '/') :
    NamesFile (complete path) :=
  ⟨head?_complete h, getLast?_complete path, dot_mem_complete path⟩

end IndexDocument

namespace RequestHook

variable {hook : RequestHook} {path result : String} {rewrite : Option Rule.Match}

/-- A rewrite leads from an absolute path to an absolute path, and so does none. -/
theorem IsCompiled.head?_routed (hhook : hook.IsCompiled) (hpath : path.toList.head? = some '/')
    (h : Rule.firstMatch? hook.rewrites path = rewrite) :
    (routed path rewrite).toList.head? = some '/' := by
  cases rewrite with
  | none => exact hpath
  | some found =>
    obtain ⟨hmem, hroute⟩ := Rule.of_firstMatch? h
    exact (hhook.rewrites found.rule hmem).head?_route? hroute

/-- A hook without rules only completes, and so leaves a complete path as it is. -/
theorem resolve_of_no_rules (hredirects : hook.redirects = []) (hrewrites : hook.rewrites = [])
    (h : IndexDocument.complete path = path) : hook.resolve path = .forward path none := by
  rw [resolve_eq_forward_iff, hredirects, hrewrites, completed]
  refine ⟨rfl, rfl, ?_⟩
  split
  · exact h
  · rfl

/-- What goes on where the index document is in use, for every set of rules and every absolute path:
a path that names a file. It is the path of the rewrite or of the viewer with at most one ending
added, and neither completing it any number of times nor resolving it without rules changes it
again. -/
theorem forwards_file_path (hhook : hook.IsCompiled) (hfallback : hook.spaFallback = true)
    (hpath : path.toList.head? = some '/') (h : hook.resolve path = .forward result rewrite) :
    IndexDocument.NamesFile result ∧ IndexDocument.complete result = result ∧
    (∀ again : RequestHook, again.redirects = [] → again.rewrites = [] →
      again.resolve result = .forward result none) ∧
    (result = routed path rewrite ∨
      result = String.ofList ((routed path rewrite).toList ++ IndexDocument.name) ∨
      result = String.ofList ((routed path rewrite).toList ++ '/' :: IndexDocument.name)) ∧
    ∀ n, IndexDocument.complete^[n + 1] (routed path rewrite) = result := by
  obtain ⟨-, hrewrite, hresult⟩ := resolve_eq_forward_iff.1 h
  rw [completed, if_pos hfallback] at hresult
  have hfile := IndexDocument.namesFile_complete (hhook.head?_routed hpath hrewrite)
  have hcomplete := IndexDocument.complete_complete (routed path rewrite)
  have hendings := IndexDocument.complete_cases (routed path rewrite)
  rw [hresult] at hfile hcomplete hendings
  refine ⟨hfile, hcomplete, ?_, ?_, ?_⟩
  · intro again hredirects hrewrites
    exact resolve_of_no_rules hredirects hrewrites hcomplete
  · exact hendings.imp_left And.left
  · intro n
    rw [IndexDocument.iterate_complete, hresult]

/-- A rewrite to a directory whose name has a dot: the dot does not make it a file. -/
theorem forwards_dotted_directory :
    ∃ hook : RequestHook, hook.IsCompiled ∧ hook.spaFallback = true ∧
    ∃ found, hook.resolve "/v/a" = .forward "/v1.0/a/index.html" (some found) ∧
    found.path = "/v1.0/a/" ∧
    ({} : RequestHook).resolve "/v1.0/a/index.html" = .forward "/v1.0/a/index.html" none := by
  let rule : Rule := {
    source := "/v/*"
    destination := "/v1.0/*/"
    expression := [.literal ['/', 'v', '/'], .wildcard]
    captureOrder := [.wildcard 0]
    template := [.literal "/v1.0/", .capture 0, .literal "/"] }
  have hrule : rule.IsCompiled := by
    change Rule.compile "/v/*" "/v1.0/*/" = .ok rule
    decide +kernel
  have hhook : ({ rewrites := [rule] } : RequestHook).IsCompiled := ⟨by simp, by simpa using hrule⟩
  have hresolve : ({ rewrites := [rule] } : RequestHook).resolve "/v/a" =
      .forward "/v1.0/a/index.html" (some ⟨0, rule, "/v1.0/a/"⟩) := by
    decide +kernel
  obtain ⟨-, -, hagain, -⟩ := forwards_file_path hhook rfl rfl hresolve
  exact ⟨_, hhook, rfl, _, hresolve, rfl, hagain {} rfl rfl⟩

end RequestHook

end EdgeRouting
