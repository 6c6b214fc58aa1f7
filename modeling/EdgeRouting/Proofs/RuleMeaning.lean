import EdgeRouting.Proofs.ExpressionText
import EdgeRouting.Proofs.RuleCompile
import Mathlib.Data.List.Forall2

/-!
# What a rule does to a path

`Pattern.Cuts` says how a path is cut along the tokens of a source, and `Pattern.fill?` puts the
pieces of a cut into a destination: by name, and wildcard after wildcard. A compiled rule routes a
path to its destination filled with the greatest cut, and its written expression, searched as a
regular expression, gives the same answer.
-/

namespace EdgeRouting

namespace Pattern

def Token.Admits : Token → List Char → Prop
  | .literal text, piece => piece = text
  | .parameter _, piece => piece ≠ [] ∧ '/' ∉ piece
  | .wildcard, piece => '\n' ∉ piece

abbrev Cuts (tokens : List Token) (path : List Char) (pieces : List (List Char)) : Prop :=
  CutsAlong Token.Admits tokens path pieces

def named (tokens : List Token) (pieces : List (List Char)) : List (List Char × List Char) :=
  (tokens.zip pieces).filterMap fun
    | (.parameter name, piece) => some (name, piece)
    | _ => none

def wild (tokens : List Token) (pieces : List (List Char)) : List (List Char) :=
  (tokens.zip pieces).filterMap fun
    | (.wildcard, piece) => some piece
    | _ => none

theorem mem_zip_of_lookup_named {tokens : List Token} {pieces : List (List Char)}
    {name piece : List Char} (h : (named tokens pieces).lookup name = some piece) :
    (.parameter name, piece) ∈ tokens.zip pieces := by
  obtain ⟨before, after, hsplit, -⟩ := List.lookup_eq_some_iff.1 h
  have hmem : (name, piece) ∈ named tokens pieces := by
    rw [hsplit]
    exact List.mem_append_right _ List.mem_cons_self
  obtain ⟨⟨token, own⟩, hzip, htoken⟩ := List.mem_filterMap.1 hmem
  cases token <;> cases htoken
  exact hzip

theorem mem_zip_of_mem_wild {tokens : List Token} {pieces : List (List Char)} {piece : List Char}
    (h : piece ∈ wild tokens pieces) : (.wildcard, piece) ∈ tokens.zip pieces := by
  obtain ⟨⟨token, own⟩, hzip, htoken⟩ := List.mem_filterMap.1 h
  cases token <;> cases htoken
  exact hzip

def capturedLengths (tokens : List Token) (pieces : List (List Char)) : List Nat :=
  (tokens.zip pieces).filterMap fun
    | (.literal _, _) => none
    | (_, piece) => some piece.length

/-- A cut that captures more than any other at the first place where they differ. -/
def IsGreatestCut (tokens : List Token) (path : List Char) (pieces : List (List Char)) : Prop :=
  Cuts tokens path pieces ∧
    ∀ other, Cuts tokens path other →
    other = pieces ∨ capturedLengths tokens other < capturedLengths tokens pieces

/-- The text of a destination with each parameter replaced by the piece of its name and each
wildcard by the next of the wild pieces. -/
def fill? (named : List (List Char × List Char)) :
    List (List Char) → List Token → Option (List Char)
  | _, [] => some []
  | wild, .literal text :: tokens => (fill? named wild tokens).map (text ++ ·)
  | wild, .parameter name :: tokens => do
    return (← named.lookup name) ++ (← fill? named wild tokens)
  | piece :: wild, .wildcard :: tokens => (fill? named wild tokens).map (piece ++ ·)
  | [], .wildcard :: _ => none

theorem Token.admits_part : (fun token : Token => token.part.Admits) = Token.Admits := by
  funext token
  cases token <;> rfl

theorem cuts_parts {tokens : List Token} {path : List Char} {pieces : List (List Char)} :
    Expression.Cuts (tokens.map Token.part) path pieces ↔ Cuts tokens path pieces := by
  rw [Expression.cuts_map_iff, Token.admits_part]

theorem isPattern_parts (tokens : List Token) : Expression.IsPattern (tokens.map Token.part) := by
  intro part hpart
  obtain ⟨token, -, rfl⟩ := List.mem_map.1 hpart
  cases token with
  | literal text => exact .inr ⟨text, rfl⟩
  | parameter name => exact .inl rfl
  | wildcard => exact .inl rfl

theorem hasAlternatives_parts (tokens : List Token) :
    Expression.HasAlternatives (tokens.map Token.part) := by
  intro h
  obtain ⟨token, -, htoken⟩ := List.mem_map.1 h
  cases token <;> cases htoken

theorem capturedLengths_parts (tokens : List Token) (pieces : List (List Char)) :
    Expression.capturedLengths (tokens.map Token.part) pieces = capturedLengths tokens pieces := by
  induction tokens generalizing pieces with
  | nil => rfl
  | cons token tokens ih =>
    cases pieces with
    | nil => rfl
    | cons piece pieces =>
      rw [List.map_cons, Expression.capturedLengths_cons, ih]
      cases token <;> rfl

theorem cut?_parts {tokens : List Token} {path : List Char} {pieces : List (List Char)} :
    Expression.cut? (tokens.map Token.part) path = some pieces ↔
      IsGreatestCut tokens path pieces := by
  have hgreatest {best other : List (List Char)}
      (hbest : Expression.cut? (tokens.map Token.part) path = some best)
      (hother : Cuts tokens path other) :
      other = best ∨ capturedLengths tokens other < capturedLengths tokens best := by
    rw [← capturedLengths_parts, ← capturedLengths_parts]
    exact Expression.eq_or_capturedLengths_lt (isPattern_parts tokens) hbest (cuts_parts.2 hother)
  constructor
  · intro h
    exact ⟨cuts_parts.1 (Expression.cuts_of_cut? h), fun other hother => hgreatest h hother⟩
  · rintro ⟨hpieces, hbelow⟩
    have hmatch : Expression.isMatch (tokens.map Token.part) path = true :=
      Expression.isMatch_iff.2 ⟨pieces, cuts_parts.2 hpieces⟩
    obtain ⟨best, hbest⟩ := Option.isSome_iff_exists.1 hmatch
    rcases hgreatest hbest hpieces with rfl | hlt
    · exact hbest
    · rcases hbelow best (cuts_parts.1 (Expression.cuts_of_cut? hbest)) with rfl | hlt'
      · exact hbest
      · exact absurd hlt' (List.lt_asymm hlt)

end Pattern

namespace Rule

open Pattern (Token)

abbrev capturedPieces (tokens : List Token) (pieces : List (List Char)) : List (List Char) :=
  Expression.captured (tokens.map Token.part) pieces

/-- A name and its slot stand for the same piece. -/
theorem lookup_named {tokens : List Token} {pieces : List (List Char)}
    (hlength : tokens.length = pieces.length) (wildcards : Nat) {name : List Char} {slot : Nat}
    (hslot : (captureOrderFrom wildcards tokens).idxOf? (.parameter (String.ofList name)) =
      some slot) :
    (Pattern.named tokens pieces).lookup name =
      some ((capturedPieces tokens pieces).getD slot []) := by
  induction tokens generalizing pieces wildcards slot with
  | nil => simp [captureOrderFrom] at hslot
  | cons token tokens ih =>
    obtain ⟨piece, pieces, rfl⟩ := List.exists_cons_of_length_eq_add_one hlength.symm
    have hlength' : tokens.length = pieces.length := by simpa using hlength
    cases token with
    | literal text => exact ih hlength' wildcards hslot
    | parameter other =>
      have hnamed : Pattern.named (.parameter other :: tokens) (piece :: pieces) =
          (other, piece) :: Pattern.named tokens pieces := rfl
      have hpieces : capturedPieces (.parameter other :: tokens) (piece :: pieces) =
          piece :: capturedPieces tokens pieces := rfl
      rw [captureOrderFrom, List.idxOf?_cons] at hslot
      rw [hnamed, hpieces, List.lookup_cons]
      by_cases hname : name = other
      · subst hname
        simp only [beq_self_eq_true, if_true, Option.some.injEq] at hslot ⊢
        subst hslot
        rfl
      · have hne :
            (CaptureSlot.parameter (String.ofList other) == .parameter (String.ofList name)) =
              false := by
          simpa [String.ofList_inj] using Ne.symm hname
        simp only [hne, Bool.false_eq_true, if_false] at hslot
        obtain ⟨before, hbefore, rfl⟩ := Option.map_eq_some_iff.1 hslot
        rw [beq_eq_false_iff_ne.2 hname]
        exact ih hlength' wildcards hbefore
    | wildcard =>
      have hpieces : capturedPieces (.wildcard :: tokens) (piece :: pieces) =
          piece :: capturedPieces tokens pieces :=
        rfl
      have hne : (CaptureSlot.wildcard wildcards == .parameter (String.ofList name)) = false := rfl
      simp only [captureOrderFrom, List.idxOf?_cons, hne, Bool.false_eq_true, if_false] at hslot
      obtain ⟨before, hbefore, rfl⟩ := Option.map_eq_some_iff.1 hslot
      rw [hpieces]
      exact ih hlength' (wildcards + 1) hbefore

/-- The slots of the wildcards hold the wild pieces, behind any earlier captures. -/
theorem map_wildcardSlots {tokens : List Token} {pieces : List (List Char)}
    (hlength : tokens.length = pieces.length) (wildcards : Nat) (earlier : List (List Char)) :
    (wildcardSlots earlier.length (captureOrderFrom wildcards tokens)).map
      (fun slot => (earlier ++ capturedPieces tokens pieces).getD slot []) =
        Pattern.wild tokens pieces := by
  induction tokens generalizing pieces wildcards earlier with
  | nil => rfl
  | cons token tokens ih =>
    obtain ⟨piece, pieces, rfl⟩ := List.exists_cons_of_length_eq_add_one hlength.symm
    have hlength' : tokens.length = pieces.length := by simpa using hlength
    cases token with
    | literal text => exact ih hlength' wildcards earlier
    | parameter name =>
      have hpieces : capturedPieces (.parameter name :: tokens) (piece :: pieces) =
          piece :: capturedPieces tokens pieces := rfl
      have hstep := ih hlength' wildcards (earlier ++ [piece])
      rw [List.length_append, List.length_singleton] at hstep
      rw [captureOrderFrom, wildcardSlots, hpieces, List.append_cons]
      exact hstep
    | wildcard =>
      have hpieces : capturedPieces (.wildcard :: tokens) (piece :: pieces) =
          piece :: capturedPieces tokens pieces :=
        rfl
      have hwild : Pattern.wild (.wildcard :: tokens) (piece :: pieces) =
          piece :: Pattern.wild tokens pieces := rfl
      have hstep := ih hlength' (wildcards + 1) (earlier ++ [piece])
      rw [List.length_append, List.length_singleton] at hstep
      rw [captureOrderFrom, wildcardSlots, hpieces, hwild, List.map_cons, ← hstep, List.append_cons]
      simp

theorem substitute_literal (captures : List (List Char)) (text : List Char)
    (template : List TemplatePart) :
    substitute captures (.literal (String.ofList text) :: template) =
      text ++ substitute captures template := by
  simp [substitute]

theorem substitute_capture (captures : List (List Char)) (slot : Nat)
    (template : List TemplatePart) :
    substitute captures (.capture slot :: template) =
      captures.getD slot [] ++ substitute captures template := rfl

/-- A bound template, substituted, is the destination filled. -/
theorem fill?_eq_substitute {order : List CaptureSlot} {undefined : String → CompileError}
    {excess : CompileError} {named : List (List Char × List Char)} {captures : List (List Char)}
    (hnamed : ∀ name slot, order.idxOf? (.parameter (String.ofList name)) = some slot →
      named.lookup name = some (captures.getD slot []))
    {free : List Nat} {tokens : List Token} {template : List TemplatePart}
    (h : bindTokens order undefined excess free tokens = .ok template) :
    Pattern.fill? named (free.map fun slot => captures.getD slot []) tokens =
      some (substitute captures template) := by
  induction tokens generalizing free template with
  | nil =>
    cases h
    cases free <;> rfl
  | cons token tokens ih =>
    cases token with
    | literal text =>
      obtain ⟨rest, hrest, rfl⟩ := bindTokens_literal_iff.1 h
      rw [Pattern.fill?, ih hrest, substitute_literal]
      rfl
    | parameter name =>
      obtain ⟨slot, rest, hslot, hrest, rfl⟩ := bindTokens_parameter_iff.1 h
      rw [Pattern.fill?, ih hrest, hnamed name slot hslot, substitute_capture]
      rfl
    | wildcard =>
      obtain ⟨slot, later, rest, rfl, hrest, rfl⟩ := bindTokens_wildcard_iff.1 h
      rw [List.map_cons, Pattern.fill?, ih hrest, substitute_capture]
      rfl

/-- A template with the groups of a match put in. Group zero is the whole match, so the first slot
is group one. -/
def expand (groups : Nat → Option (List Char)) (template : List TemplatePart) : List Char :=
  template.flatMap fun
    | .literal text => text.toList
    | .capture slot => (groups (slot + 1)).getD []

theorem expand_eq_substitute {groups : Nat → Option (List Char)} {captures : List (List Char)}
    (h : ∀ slot, groups (slot + 1) = captures[slot]?) (template : List TemplatePart) :
    expand groups template = substitute captures template := by
  rw [expand, substitute]
  congr 1
  funext part
  cases part with
  | literal text => rfl
  | capture slot => simp [h]

theorem route?_isSome (rule : Rule) (path : String) :
    (rule.route? path).isSome = rule.isMatch path := by
  simp only [route?, isMatch, Expression.isMatch, Expression.captures?_eq, Option.isSome_map]

namespace Passed

variable {source destination : String} {rule : Rule}

theorem isMatch_iff (h : Passed source destination rule) (path : String) :
    rule.isMatch path = true ↔
      ∃ pieces, Pattern.Cuts (Pattern.scan source.toList) path.toList pieces := by
  simp only [isMatch, h.expression_eq, Expression.isMatch_iff, Pattern.cuts_parts]

/-- The pieces of a cut, put into the template, fill the destination. -/
theorem fill?_eq (h : Passed source destination rule) {path : List Char} {pieces : List (List Char)}
    (hpieces : Pattern.Cuts (Pattern.scan source.toList) path pieces) :
    Pattern.fill? (Pattern.named (Pattern.scan source.toList) pieces)
      (Pattern.wild (Pattern.scan source.toList) pieces)
      (Pattern.scan destination.toList) =
        some (substitute (capturedPieces (Pattern.scan source.toList) pieces) rule.template) := by
  have hlength := hpieces.2.length_eq
  have hbound := (compileTemplate_eq_ok_iff.1 h.templateBound).2
  rw [← map_wildcardSlots hlength 0 []]
  exact fill?_eq_substitute (fun name slot hslot => lookup_named hlength 0 hslot) hbound

theorem route?_eq_some_iff (h : Passed source destination rule) (path result : String) :
    rule.route? path = some result ↔ ∃ pieces,
      Pattern.IsGreatestCut (Pattern.scan source.toList) path.toList pieces ∧
      Pattern.fill? (Pattern.named (Pattern.scan source.toList) pieces)
        (Pattern.wild (Pattern.scan source.toList) pieces) (Pattern.scan destination.toList) =
          some result.toList := by
  rw [route?, Expression.captures?_eq, h.expression_eq, Option.map_map, Option.map_eq_some_iff]
  simp only [Pattern.cut?_parts]
  constructor
  · rintro ⟨pieces, hpieces, rfl⟩
    exact ⟨pieces, hpieces, by simp [h.fill?_eq hpieces.1]⟩
  · rintro ⟨pieces, hpieces, hfill⟩
    rw [h.fill?_eq hpieces.1] at hfill
    exact ⟨pieces, hpieces, by simp [Option.some.inj hfill]⟩

/-- The written expression reads as a regular expression whose search gives the match and its
groups. -/
theorem read?_pattern (h : Passed source destination rule) :
    ∃ regex, Regex.read? rule.pattern.toList = some regex ∧ ∀ path : String,
      rule.isMatch path = (regex.search path.toList).isSome ∧
      rule.route? path = (regex.search path.toList).map
        fun found => String.ofList (expand found.groups rule.template) := by
  have halternatives : rule.expression.HasAlternatives := by
    rw [h.expression_eq]
    exact Pattern.hasAlternatives_parts _
  refine ⟨rule.expression.regex, Expression.read?_text _, fun path => ?_⟩
  rw [Expression.search_regex halternatives]
  constructor
  · rw [Option.isSome_map]
    rfl
  · rw [route?, Expression.captures?_eq, Option.map_map, Option.map_map]
    congr 1
    funext pieces
    rw [Function.comp_apply, Function.comp_apply,
      expand_eq_substitute (Expression.endOf_groups _ _ _)]

end Passed

/-- What a compiled rule does to every path: it matches where the path can be cut along the source,
and gives the destination filled from the greatest cut. Its written expression says the same, group
by group. -/
theorem routes_along_greatest_cut {source destination : String} {rule : Rule}
    (hrule : compile source destination = .ok rule) :
    (∀ path : String,
      (rule.isMatch path = true ↔ (rule.route? path).isSome = true) ∧
      ((rule.route? path).isSome = true ↔
        ∃ pieces, Pattern.Cuts (Pattern.scan source.toList) path.toList pieces) ∧
      ∀ result, rule.route? path = some result ↔ ∃ pieces,
        Pattern.IsGreatestCut (Pattern.scan source.toList) path.toList pieces ∧
        Pattern.fill? (Pattern.named (Pattern.scan source.toList) pieces)
          (Pattern.wild (Pattern.scan source.toList) pieces) (Pattern.scan destination.toList) =
            some result.toList) ∧
    (∀ slot, .capture slot ∈ rule.template → slot < rule.captureOrder.length) ∧
    ∃ regex, Regex.read? rule.pattern.toList = some regex ∧ ∀ path : String,
      rule.isMatch path = (regex.search path.toList).isSome ∧
      rule.route? path = (regex.search path.toList).map
        fun found => String.ofList (expand found.groups rule.template) := by
  have h := compile_eq_ok_iff.1 hrule
  refine ⟨fun path => ⟨?_, ?_, h.route?_eq_some_iff path⟩, fun slot => h.slot_lt, h.read?_pattern⟩
  · rw [route?_isSome]
  · rw [route?_isSome, h.isMatch_iff]

theorem routes_mixed_source : ∃ rule,
    compile "/:lang/files/*/raw/*" "/raw/*/:lang/*" = .ok rule ∧
    rule.route? "/en/files/a/b/raw/c.txt" = some "/raw/a/b/en/c.txt" ∧
    ∃ pieces,
      Pattern.IsGreatestCut (Pattern.scan "/:lang/files/*/raw/*".toList)
        "/en/files/a/b/raw/c.txt".toList pieces ∧
      Pattern.fill? (Pattern.named (Pattern.scan "/:lang/files/*/raw/*".toList) pieces)
        (Pattern.wild (Pattern.scan "/:lang/files/*/raw/*".toList) pieces)
        (Pattern.scan "/raw/*/:lang/*".toList) = some "/raw/a/b/en/c.txt".toList := by
  have hrule : compile "/:lang/files/*/raw/*" "/raw/*/:lang/*" = .ok {
      source := "/:lang/files/*/raw/*"
      destination := "/raw/*/:lang/*"
      expression :=
        [.literal ['/'], .parameter, .literal "/files/".toList, .wildcard,
          .literal "/raw/".toList, .wildcard]
      captureOrder := [.parameter "lang", .wildcard 0, .wildcard 1]
      template := [.literal "/raw/", .capture 1, .literal "/", .capture 0, .literal "/",
        .capture 2] } := by
    decide +kernel
  have hroute :=
    (((routes_along_greatest_cut hrule).1 "/en/files/a/b/raw/c.txt").2.2 "/raw/a/b/en/c.txt").1
    (by decide +kernel)
  exact ⟨_, hrule, by decide +kernel, hroute⟩

end Rule

end EdgeRouting
