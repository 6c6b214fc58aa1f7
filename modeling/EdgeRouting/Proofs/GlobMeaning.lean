import EdgeRouting.Proofs.ExpressionText
import EdgeRouting.Proofs.GlobReading

/-!
# What a glob matches

`Glob.Cuts` says how a path is cut along the tokens of a glob. A compiled glob matches a path that
has such a cut, and its written expression consists of the tokens' own expressions and of nothing
else.
-/

namespace EdgeRouting.Glob

namespace Token

def Admits : Token → List Char → Prop
  | .literal text, piece => piece = text
  | .star, piece => '/' ∉ piece
  | .doubleStar, piece => '\n' ∉ piece
  | .directories, piece => piece = [] ∨ ∃ names, '\n' ∉ names ∧ piece = names ++ ['/']
  | .group alternatives, piece => piece ∈ alternatives

def items : Token → List Regex
  | .literal text => text.map .char
  | .star => [.star (.anyBut '/')]
  | .doubleStar => [.star (.anyBut '\n')]
  | .directories => [.optional (.group none (.sequence [.star (.anyBut '\n'), .char '/']))]
  | .group alternatives => [.group none (.choice (alternatives.map .literal))]

theorem admits_part : (fun token : Token => token.part.Admits) = Admits := by
  funext token
  cases token <;> rfl

theorem items_part (token : Token) (index : Nat) : token.part.items index = token.items := by
  cases token <;> rfl

theorem groupCount_part (token : Token) : token.part.groupCount = 0 := by
  cases token <;> rfl

end Token

abbrev Cuts (tokens : List Token) (path : List Char) (pieces : List (List Char)) : Prop :=
  CutsAlong Token.Admits tokens path pieces

/-- The regular expression for the tokens of a glob: one after another, anchored at both ends. -/
def regex (tokens : List Token) : Regex :=
  .sequence (.atStart :: (tokens.flatMap Token.items ++ [.atEnd]))

theorem items_parts (tokens : List Token) (index : Nat) :
    Expression.items index (tokens.map Token.part) = tokens.flatMap Token.items := by
  induction tokens with
  | nil => rfl
  | cons token tokens ih =>
    rw [List.map_cons, Expression.items, Token.items_part, Token.groupCount_part, Nat.add_zero, ih,
      List.flatMap_cons]

theorem Reads.hasAlternatives {text : List Char} {tokens : List Token} (h : Reads text tokens) :
    Expression.HasAlternatives (tokens.map Token.part) := by
  induction h with
  | nil => exact List.not_mem_nil
  | group hgroup _ ih =>
    rintro hmem
    rcases List.mem_cons.1 hmem with heq | hmem
    · exact hgroup.ne_nil (Part.oneOf.inj heq).symm
    · exact ih hmem
  | literal _ _ _ _ ih | star _ _ ih | doubleStar _ _ ih | directories _ ih =>
    intro hmem
    rcases List.mem_cons.1 hmem with heq | hmem
    · cases heq
    · exact ih hmem

/-- What a compiled glob says about every path: it matches where the path can be cut along the
tokens that the glob reads as, and its written expression holds one expression for each of them. -/
theorem matches_along_tokens {text : String} {glob : Glob} (h : compile text = .ok glob) :
    ∃ tokens, Reads text.toList tokens ∧ (∀ others, Reads text.toList others → others = tokens) ∧
      (∀ path : String, glob.isMatch path = true ↔ ∃ pieces, Cuts tokens path.toList pieces) ∧
      Regex.read? glob.pattern.toList = some (regex tokens) ∧
      ∀ path : String, glob.isMatch path = ((regex tokens).search path.toList).isSome := by
  obtain ⟨tokens, hreads, -, rfl⟩ := compile_eq_ok_iff.1 h
  have hregex : Expression.regex (tokens.map Token.part) = regex tokens := by
    rw [Expression.regex, items_parts, regex]
  refine ⟨tokens, hreads, fun others hothers => hothers.unique hreads, fun path => ?_, ?_,
    fun path => ?_⟩
  · simp only [isMatch, Expression.isMatch_iff, Expression.cuts_map_iff, Token.admits_part]
  · rw [← hregex]
    exact Expression.read?_text _
  · rw [← hregex, Expression.search_regex hreads.hasAlternatives, Option.isSome_map]
    rfl

/-- Within braces a star and a bracket stand for themselves, and a directory wildcard may stand for
no directory. -/
theorem matches_stylesheet : ∃ glob tokens,
    compile "**/\x7b*,(a\x7d.css" = .ok glob ∧ Reads "**/\x7b*,(a\x7d.css".toList tokens ∧
    glob.isMatch "/assets/(a.css" = true ∧ glob.isMatch "b.css" = false ∧
    ∃ pieces, Cuts tokens "/assets/(a.css".toList pieces := by
  have hglob : compile "**/\x7b*,(a\x7d.css" = .ok {
      text := "**/\x7b*,(a\x7d.css"
      expression := [.directories, .oneOf [['*'], ['(', 'a']], .literal ".css".toList] } := by
    decide +kernel
  obtain ⟨tokens, hreads, -, hmatch, -⟩ := matches_along_tokens hglob
  have hpath := (hmatch "/assets/(a.css").1 (by decide +kernel)
  exact ⟨_, tokens, hglob, hreads, by decide +kernel, by decide +kernel, hpath⟩

end EdgeRouting.Glob
