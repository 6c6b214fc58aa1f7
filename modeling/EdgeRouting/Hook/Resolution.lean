import EdgeRouting.Event
import EdgeRouting.Rule.Basic

/-!
# Where a path ends up

The first redirect that matches ends the matter. Otherwise the first rewrite that matches gives the
path, which is then completed with the index document where it names a directory.
-/

namespace EdgeRouting

namespace IndexDocument

def name : List Char := "index.html".toList

/-- Names the index document of a directory. A path counts as a file if it has a dot and does not
end in a slash. -/
def complete (path : String) : String :=
  let text := path.toList
  if text.getLast? = some '/' then String.ofList (text ++ name)
  else if '.' ∈ text then path
  else String.ofList (text ++ '/' :: name)

end IndexDocument

inductive Resolution
  /-- Answered with a redirect by this rule. -/
  | redirect (found : Rule.Match)
  /-- Goes on with this path, after this rewrite if one matched. -/
  | forward (path : String) (rewrite : Option Rule.Match)
  deriving DecidableEq, Repr

structure RequestHook where
  redirects : List Rule := []
  rewrites : List Rule := []
  spaFallback : Bool := true
  deriving DecidableEq, Repr

namespace RequestHook

def resolve (hook : RequestHook) (path : String) : Resolution :=
  match Rule.firstMatch? hook.redirects path with
  | some found => .redirect found
  | none =>
    let rewrite := Rule.firstMatch? hook.rewrites path
    let effective := match rewrite with | some found => found.path | none => path
    .forward (if hook.spaFallback then IndexDocument.complete effective else effective) rewrite

end RequestHook

def Resolution.notices (path : String) : Resolution → List Notice
  | .forward _ (some found) => [.rewriteMatched found.rule.source path found.path]
  | _ => []

end EdgeRouting
