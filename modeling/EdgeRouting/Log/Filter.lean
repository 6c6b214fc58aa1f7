import EdgeRouting.Config.Basic
import EdgeRouting.Log.Directive
import EdgeRouting.Text.Lowercase

/-!
# Which notices show

A filter is a list of directives. Of those that concern a notice the one that says most about it
decides, and of two that say the same the later.
-/

namespace EdgeRouting

structure Filter where
  directives : List Directive
  deriving DecidableEq, Repr

namespace Filter

/-- Directives with commas between them. No directive at all leaves the errors. -/
def read (text : String) : Except Directive.Fault Filter := do
  let directives ← ((text.toList.splitOn ',').filter (· ≠ [])).mapM Directive.read
  return ⟨if directives.isEmpty then [{ verbosity := .errors }] else directives⟩

def deciding? (filter : Filter) (notice : Notice) : Option Directive :=
  (filter.directives.filter (·.concerns notice)).foldl (fun found next =>
    match found with
    | some best => if best.yieldsTo next then some next else found
    | none => some next) none

def shows (filter : Filter) (notice : Notice) : Bool :=
  (filter.deciding? notice).any fun directive => notice.level.rank ≤ directive.verbosity.rank

end Filter

namespace Observability

def directives (observability : Observability) : String :=
  let level := Lowercase.text observability.logLevel
  s!"edge_rules={level},edge_rules::http={level},tower_http={level}"

def filter (observability : Observability) : Filter :=
  match Filter.read observability.directives with
  | .ok filter => filter
  | .error _ => ⟨[]⟩

/-- The filter that is asked for, or that of the configured level if the text is malformed. Cutting
a character in two is no way to read a text, and leaves no filter. -/
def filter? (observability : Observability) : (asked : Option String) → Option Filter
  | none => some observability.filter
  | some text =>
    match Filter.read text with
    | .ok filter => some filter
    | .error .malformed => some observability.filter
    | .error .splitCharacter => none

end Observability

end EdgeRouting
