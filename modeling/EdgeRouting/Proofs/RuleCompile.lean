import EdgeRouting.Proofs.Accepted
import EdgeRouting.Rule.Basic

/-!
# Compiling a rule

The checks of a rule in the order in which they are made, and what holds of a rule that passes them
all.
-/

namespace EdgeRouting.Rule

open Pattern (Token)

theorem compile_eq (source destination : String) : compile source destination =
    if ¬ Pattern.IsPath source.toList then .error (.invalidPath source)
    else if ¬ Pattern.IsPath destination.toList then .error (.invalidPath destination)
    else match Pattern.bareColon? 0 source.toList with
      | some position => .error (.unterminatedParameter source position)
      | none =>
        match Pattern.firstRepeated? [] ((Pattern.scan source.toList).filterMap Token.name?) with
        | some name => .error (.duplicateParameter source (String.ofList name))
        | none =>
          compileTemplate source destination
              (captureOrderFrom 0 (Pattern.scan source.toList)) >>= fun template =>
          if Expression.sizeLimit <
            Expression.weight ((Pattern.scan source.toList).map Token.part) then
            .error (.expressionTooLarge Expression.sizeLimit)
          else .ok {
            source, destination
            expression := (Pattern.scan source.toList).map Token.part
            captureOrder := captureOrderFrom 0 (Pattern.scan source.toList)
            template } := by
  rw [compile]
  by_cases hsource : Pattern.IsPath source.toList
  · by_cases hdestination : Pattern.IsPath destination.toList
    · rw [if_pos hsource, if_neg (not_not.2 hsource), if_neg (not_not.2 hdestination)]
      dsimp only
      rw [if_pos hdestination]
      cases Pattern.bareColon? 0 source.toList with
      | some position => rfl
      | none =>
        dsimp only
        cases Pattern.firstRepeated? [] ((Pattern.scan source.toList).filterMap Token.name?) with
        | some name => rfl
        | none => rfl
    · rw [if_pos hsource, if_neg (not_not.2 hsource), if_pos hdestination]
      dsimp only
      rw [if_neg hdestination]
      rfl
  · rw [if_neg hsource, if_pos hsource]
    rfl

/-- A rule that has passed every check, with the text that it was compiled from. -/
structure Passed (source destination : String) (rule : Rule) : Prop where
  sourceIsPath : Pattern.IsPath source.toList
  destinationIsPath : Pattern.IsPath destination.toList
  colonsNamed : Pattern.bareColon? 0 source.toList = none
  namesDistinct : Pattern.firstRepeated? []
    ((Pattern.scan source.toList).filterMap Token.name?) = none
  templateBound :
    compileTemplate source destination (captureOrderFrom 0 (Pattern.scan source.toList)) =
      .ok rule.template
  sizeAllowed : Expression.weight rule.expression ≤ Expression.sizeLimit
  source_eq : rule.source = source
  destination_eq : rule.destination = destination
  expression_eq : rule.expression = (Pattern.scan source.toList).map Token.part
  captureOrder_eq : rule.captureOrder = captureOrderFrom 0 (Pattern.scan source.toList)

theorem compile_eq_ok_iff {source destination : String} {rule : Rule} :
    compile source destination = .ok rule ↔ Passed source destination rule := by
  rw [compile_eq]
  constructor
  · intro h
    split at h
    · cases h
    rename_i hsource
    split at h
    · cases h
    rename_i hdestination
    split at h
    · cases h
    rename_i hcolons
    split at h
    · cases h
    rename_i hnames
    obtain ⟨template, htemplate, h⟩ := Accepted.bind_eq_ok_iff.1 h
    split at h
    · cases h
    rename_i hsize
    cases h
    exact ⟨not_not.1 hsource, not_not.1 hdestination, hcolons, hnames, htemplate,
      Nat.not_lt.1 hsize, rfl, rfl, rfl, rfl⟩
  · intro h
    rw [if_neg (not_not.2 h.sourceIsPath), if_neg (not_not.2 h.destinationIsPath), h.colonsNamed,
      h.namesDistinct]
    refine Accepted.bind_eq_ok_iff.2 ⟨rule.template, h.templateBound, ?_⟩
    rw [← h.expression_eq, if_neg (Nat.not_lt.2 h.sizeAllowed), ← h.captureOrder_eq]
    cases rule
    cases h.source_eq
    cases h.destination_eq
    rfl

variable {order : List CaptureSlot} {undefined : String → CompileError} {excess : CompileError}
  {free : List Nat} {tokens : List Token} {template : List TemplatePart}

theorem bindTokens_literal_iff {text : List Char} :
    bindTokens order undefined excess free (.literal text :: tokens) = .ok template ↔
      ∃ rest, bindTokens order undefined excess free tokens = .ok rest ∧
        template = .literal (String.ofList text) :: rest := by
  simp only [bindTokens, Accepted.bind_eq_ok_iff, Accepted.pure_eq_ok_iff, @eq_comm _ template]

theorem bindTokens_parameter_iff {name : List Char} :
    bindTokens order undefined excess free (.parameter name :: tokens) = .ok template ↔
      ∃ slot rest, order.idxOf? (.parameter (String.ofList name)) = some slot ∧
        bindTokens order undefined excess free tokens = .ok rest ∧
        template = .capture slot :: rest := by
  rw [bindTokens]
  cases order.idxOf? (.parameter (String.ofList name)) with
  | none => simp
  | some slot =>
    simp only [Accepted.bind_eq_ok_iff, Accepted.pure_eq_ok_iff, Option.some.injEq, exists_and_left,
      exists_eq_left', @eq_comm _ template]

theorem bindTokens_wildcard_iff :
    bindTokens order undefined excess free (.wildcard :: tokens) = .ok template ↔
      ∃ slot later rest, free = slot :: later ∧
        bindTokens order undefined excess later tokens = .ok rest ∧
        template = .capture slot :: rest := by
  cases free with
  | nil => simp [bindTokens]
  | cons slot later =>
    simp only [bindTokens, Accepted.bind_eq_ok_iff, Accepted.pure_eq_ok_iff,
      List.cons.injEq, and_assoc, exists_and_left, exists_eq_left', @eq_comm _ template]

theorem compileTemplate_eq_ok_iff {source destination : String} :
    compileTemplate source destination order = .ok template ↔
      (Pattern.scan destination.toList).count .wildcard ≤ (wildcardSlots 0 order).length ∧
      bindTokens order (.undefinedParameter source destination)
        (.excessWildcards source destination ((Pattern.scan destination.toList).count .wildcard)
          (wildcardSlots 0 order).length)
        (wildcardSlots 0 order) (Pattern.scan destination.toList) = .ok template := by
  rw [compileTemplate]
  dsimp only
  by_cases h : (wildcardSlots 0 order).length < (Pattern.scan destination.toList).count .wildcard
  · rw [if_pos h]
    constructor
    · intro h'
      cases h'
    · intro h'
      omega
  · rw [if_neg h, and_iff_right (Nat.not_lt.1 h)]

theorem lt_of_mem_wildcardSlots {k slot : Nat} (h : slot ∈ wildcardSlots k order) :
    slot < k + order.length := by
  induction order generalizing k with
  | nil => simp [wildcardSlots] at h
  | cons capture order ih =>
    rw [List.length_cons]
    cases capture with
    | parameter name =>
      have hlt := ih h
      omega
    | wildcard index =>
      rcases List.mem_cons.1 h with rfl | h
      · omega
      · have hlt := ih h
        omega

theorem slot_lt_of_bindTokens (h : bindTokens order undefined excess free tokens = .ok template)
    (hfree : ∀ slot ∈ free, slot < order.length) {slot : Nat} (hslot : .capture slot ∈ template) :
    slot < order.length := by
  induction tokens generalizing free template with
  | nil =>
    cases h
    cases hslot
  | cons token tokens ih =>
    cases token with
    | literal text =>
      obtain ⟨rest, hrest, rfl⟩ := bindTokens_literal_iff.1 h
      exact ih hrest hfree (by simpa using hslot)
    | parameter name =>
      obtain ⟨bound, rest, hbound, hrest, rfl⟩ := bindTokens_parameter_iff.1 h
      rcases List.mem_cons.1 hslot with heq | hslot
      · cases heq
        exact (List.idxOf?_eq_some_iff.1 hbound).1
      · exact ih hrest hfree hslot
    | wildcard =>
      obtain ⟨bound, later, rest, rfl, hrest, rfl⟩ := bindTokens_wildcard_iff.1 h
      rcases List.mem_cons.1 hslot with heq | hslot
      · cases heq
        exact hfree slot List.mem_cons_self
      · exact ih hrest (fun slot h => hfree slot (List.mem_cons_of_mem _ h)) hslot

theorem Passed.slot_lt {source destination : String} {rule : Rule}
    (h : Passed source destination rule) {slot : Nat} (hslot : .capture slot ∈ rule.template) :
    slot < rule.captureOrder.length := by
  rw [h.captureOrder_eq]
  refine slot_lt_of_bindTokens (compileTemplate_eq_ok_iff.1 h.templateBound).2
    (fun slot hfree => ?_) hslot
  simpa using lt_of_mem_wildcardSlots hfree

end EdgeRouting.Rule
