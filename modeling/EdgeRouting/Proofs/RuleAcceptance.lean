import EdgeRouting.Proofs.PatternNames
import EdgeRouting.Proofs.TamperEvidence

/-!
# Which rules are accepted

`Acceptable` says what is asked of a source and a destination, and `Refused` which of these
conditions fails first and how it is reported; both speak of the two texts alone. A rule whose texts
are acceptable compiles, up to the size of its expression, and any other is refused for the first
condition that fails.
-/

namespace EdgeRouting

open Accepted

namespace Pattern

structure IsSource (pattern : List Char) : Prop where
  isPath : IsPath pattern
  colonsNamed : ColonsNamed pattern
  namesDistinct : (names pattern).Nodup

instance (pattern : List Char) : Decidable (IsSource pattern) :=
  decidable_of_iff (IsPath pattern ∧ ColonsNamed pattern ∧ (names pattern).Nodup)
    ⟨fun ⟨hpath, hcolons, hnames⟩ => ⟨hpath, hcolons, hnames⟩,
      fun h => ⟨h.isPath, h.colonsNamed, h.namesDistinct⟩⟩

abbrev expression (pattern : List Char) : Expression :=
  (scan pattern).map Token.part

end Pattern

namespace Rule

open Pattern (Token IsPath IsSource ColonsNamed BeginsName)

structure Acceptable (source destination : String) : Prop where
  isSource : IsSource source.toList
  isPath : IsPath destination.toList
  wildcards : destination.toList.count '*' ≤ source.toList.count '*'
  names : ∀ name ∈ Pattern.names destination.toList, name ∈ Pattern.names source.toList

/-- The first condition that fails, with its report. All conditions before it are met, and where a
text fails it in several places, the report is about the leftmost of them. -/
inductive Refused (source destination : String) : CompileError → Prop
  | sourcePath (hfails : ¬ IsPath source.toList) : Refused source destination (.invalidPath source)
  | destinationPath (hsource : IsPath source.toList) (hfails : ¬ IsPath destination.toList) :
      Refused source destination (.invalidPath destination)
  | bareColon {before after : List Char} (hsource : IsPath source.toList)
      (hdestination : IsPath destination.toList) (hsplit : source.toList = before ++ ':' :: after)
      (hfirst : ColonsNamed before) (hfails : ¬ BeginsName after) :
      Refused source destination (.unterminatedParameter source (String.ofList before).utf8ByteSize)
  | repeatedName {earlier later : List (List Char)} {name : List Char}
      (hsource : IsPath source.toList) (hdestination : IsPath destination.toList)
      (hcolons : ColonsNamed source.toList)
      (hsplit : Pattern.names source.toList = earlier ++ name :: later) (hfirst : earlier.Nodup)
      (hfails : name ∈ earlier) :
      Refused source destination (.duplicateParameter source (String.ofList name))
  | excessWildcards (hsource : IsSource source.toList) (hdestination : IsPath destination.toList)
      (hfails : source.toList.count '*' < destination.toList.count '*') :
      Refused source destination
        (.excessWildcards source destination (destination.toList.count '*')
          (source.toList.count '*'))
  | undefinedName {earlier later : List (List Char)} {name : List Char}
      (hsource : IsSource source.toList) (hdestination : IsPath destination.toList)
      (hwildcards : destination.toList.count '*' ≤ source.toList.count '*')
      (hsplit : Pattern.names destination.toList = earlier ++ name :: later)
      (hfirst : ∀ other ∈ earlier, other ∈ Pattern.names source.toList)
      (hfails : name ∉ Pattern.names source.toList) :
      Refused source destination (.undefinedParameter source destination (String.ofList name))

theorem parameter_mem_captureOrderFrom {wildcards : Nat} {tokens : List Token} {name : List Char} :
    .parameter (String.ofList name) ∈ captureOrderFrom wildcards tokens ↔
      name ∈ tokens.filterMap Token.name? := by
  induction tokens generalizing wildcards with
  | nil => simp [captureOrderFrom]
  | cons token tokens ih =>
    cases token with
    | literal text => simp [captureOrderFrom, Token.name?, ih]
    | parameter other => simp [captureOrderFrom, Token.name?, ih, String.ofList_inj]
    | wildcard => simp [captureOrderFrom, Token.name?, ih]

theorem length_wildcardSlots (slot wildcards : Nat) (tokens : List Token) :
    (wildcardSlots slot (captureOrderFrom wildcards tokens)).length = tokens.count .wildcard := by
  induction tokens generalizing slot wildcards with
  | nil => rfl
  | cons token tokens ih =>
    cases token with
    | literal text => simp [captureOrderFrom, ih]
    | parameter name => simp [captureOrderFrom, wildcardSlots, ih]
    | wildcard => simp [captureOrderFrom, wildcardSlots, ih]

theorem getElem?_wildcardSlots (slot wildcards : Nat) (tokens : List Token) (n : Nat) :
    (wildcardSlots slot (captureOrderFrom wildcards tokens))[n]? =
      ((captureOrderFrom wildcards tokens).idxOf? (.wildcard (wildcards + n))).map (slot + ·) := by
  have hshift (found : Option Nat) (k : Nat) : (found.map (· + 1)).map (k + ·) =
      found.map (k + 1 + ·) := by
    rw [Option.map_map]
    congr 1
    funext i
    simp only [Function.comp_apply]
    omega
  induction tokens generalizing slot wildcards n with
  | nil => rfl
  | cons token tokens ih =>
    cases token with
    | literal text => exact ih slot wildcards n
    | parameter name =>
      have hne : (CaptureSlot.parameter (String.ofList name) == .wildcard (wildcards + n)) =
          false := rfl
      rw [captureOrderFrom, wildcardSlots, ih, List.idxOf?_cons, hne,
        if_neg Bool.false_ne_true, hshift]
    | wildcard =>
      rw [captureOrderFrom, wildcardSlots, List.idxOf?_cons]
      cases n with
      | zero => simp
      | succ n =>
        have hne : (CaptureSlot.wildcard wildcards == .wildcard (wildcards + (n + 1))) =
            false := by simp
        have hnumber : wildcards + (n + 1) = wildcards + 1 + n := by omega
        rw [hne, if_neg Bool.false_ne_true, List.getElem?_cons_succ, ih, hnumber, hshift]

/-- Binds the tokens of a destination as `bindTokens` does, but looks each wildcard up by its
number. A number that has no slot would be reported as `missing` says. -/
def bindByNumber (order : List CaptureSlot) (undefined : String → CompileError)
    (missing : Nat → CompileError) :
    Nat → List Token → Except CompileError (List TemplatePart)
  | _, [] => .ok []
  | n, .literal text :: tokens => do
    return .literal (String.ofList text) :: (← bindByNumber order undefined missing n tokens)
  | n, .parameter name :: tokens =>
    match order.idxOf? (.parameter (String.ofList name)) with
    | some slot => do return .capture slot :: (← bindByNumber order undefined missing n tokens)
    | none => .error (undefined (String.ofList name))
  | n, .wildcard :: tokens =>
    match order.idxOf? (.wildcard n) with
    | some slot => do
      return .capture slot :: (← bindByNumber order undefined missing (n + 1) tokens)
    | none => .error (missing n)

variable {order : List CaptureSlot} {undefined : String → CompileError} {excess : CompileError}

/-- Where there are slots enough, no number is missing. -/
theorem bindByNumber_eq {missing : Nat → CompileError} {source : List Token}
    {tokens : List Token} {n : Nat} (h : n + tokens.count .wildcard ≤ source.count .wildcard) :
    bindByNumber (captureOrderFrom 0 source) undefined missing n tokens =
      bindTokens (captureOrderFrom 0 source) undefined excess
        ((wildcardSlots 0 (captureOrderFrom 0 source)).drop n)
        tokens := by
  induction tokens generalizing n with
  | nil => rfl
  | cons token tokens ih =>
    cases token with
    | literal text =>
      have hrest : n + tokens.count .wildcard ≤ source.count .wildcard := by simpa using h
      rw [bindByNumber, bindTokens, ih hrest]
    | parameter name =>
      have hrest : n + tokens.count .wildcard ≤ source.count .wildcard := by simpa using h
      cases hslot : (captureOrderFrom 0 source).idxOf? (.parameter (String.ofList name)) with
      | some slot => simp only [bindByNumber, bindTokens, hslot, ih hrest]
      | none => simp only [bindByNumber, bindTokens, hslot]
    | wildcard =>
      rw [List.count_cons_self] at h
      have hn : n < (wildcardSlots 0 (captureOrderFrom 0 source)).length := by
        rw [length_wildcardSlots]
        omega
      have hslot : (captureOrderFrom 0 source).idxOf? (.wildcard n) =
          some (wildcardSlots 0 (captureOrderFrom 0 source))[n] := by
        have hget := getElem?_wildcardSlots 0 0 source n
        rw [List.getElem?_eq_getElem hn] at hget
        simpa using hget.symm
      rw [bindByNumber, hslot, List.drop_eq_getElem_cons hn, bindTokens, ih (by omega)]

/-- Where there are slots enough, only a name can be at fault. -/
theorem error?_bindTokens {free : List Nat} {tokens : List Token}
    (h : tokens.count .wildcard ≤ free.length) :
    error? (bindTokens order undefined excess free tokens) =
      ((tokens.filterMap Token.name?).find? fun name => .parameter (String.ofList name) ∉ order).map
        fun name => undefined (String.ofList name) := by
  induction tokens generalizing free with
  | nil => rfl
  | cons token tokens ih =>
    cases token with
    | literal text =>
      have hrest : tokens.count .wildcard ≤ free.length := by simpa using h
      rw [bindTokens, error?_bind_pure, ih hrest]
      rfl
    | parameter name =>
      have hrest : tokens.count .wildcard ≤ free.length := by simpa using h
      have hnames : (Token.parameter name :: tokens).filterMap Token.name? =
          name :: tokens.filterMap Token.name? := rfl
      rw [bindTokens, hnames, List.find?_cons]
      cases hslot : order.idxOf? (.parameter (String.ofList name)) with
      | none => simp [List.idxOf?_eq_none_iff.1 hslot, error?]
      | some slot =>
        have hmem : .parameter (String.ofList name) ∈ order := by
          obtain ⟨hlt, heq, -⟩ := List.idxOf?_eq_some_iff.1 hslot
          exact heq ▸ List.getElem_mem hlt
        dsimp only
        rw [error?_bind_pure, ih hrest]
        simp [hmem]
    | wildcard =>
      rw [List.count_cons_self] at h
      cases free with
      | nil => simp at h
      | cons slot free =>
        rw [bindTokens, error?_bind_pure, ih (by simpa using h)]
        rfl

/-- What can be wrong with a destination: first the number of its wildcards, then its names. -/
theorem error?_compileTemplate (source destination : String) :
    error? (compileTemplate source destination (captureOrderFrom 0 (Pattern.scan source.toList))) =
      if source.toList.count '*' < destination.toList.count '*' then
        some (.excessWildcards source destination (destination.toList.count '*')
          (source.toList.count '*'))
      else ((Pattern.names destination.toList).find? (· ∉ Pattern.names source.toList)).map
        fun name => .undefinedParameter source destination (String.ofList name) := by
  rw [compileTemplate]
  dsimp only
  rw [length_wildcardSlots, Pattern.count_scan, Pattern.count_scan]
  by_cases hexcess : source.toList.count '*' < destination.toList.count '*'
  · rw [if_pos hexcess, if_pos hexcess]
    rfl
  · have henough : (Pattern.scan destination.toList).count .wildcard ≤
        (wildcardSlots 0 (captureOrderFrom 0 (Pattern.scan source.toList))).length := by
      rw [length_wildcardSlots, Pattern.count_scan, Pattern.count_scan]
      exact Nat.not_lt.1 hexcess
    rw [if_neg hexcess, if_neg hexcess, error?_bindTokens henough, Pattern.names_scan]
    simp only [parameter_mem_captureOrderFrom, Pattern.names_scan]

variable {source destination : String}

theorem compile_of_isSource (hsource : IsSource source.toList)
    (hdestination : IsPath destination.toList) :
    compile source destination =
      compileTemplate source destination (captureOrderFrom 0 (Pattern.scan source.toList)) >>=
        fun template =>
      if Expression.sizeLimit < Expression.weight (Pattern.expression source.toList) then
        .error (.expressionTooLarge Expression.sizeLimit)
      else .ok {
        source, destination
        expression := Pattern.expression source.toList
        captureOrder := captureOrderFrom 0 (Pattern.scan source.toList)
        template } := by
  have hnames : Pattern.firstRepeated? [] ((Pattern.scan source.toList).filterMap Token.name?) =
      none := by
    rw [Pattern.names_scan]
    exact Pattern.firstRepeated?_eq_none_iff.2 ⟨hsource.namesDistinct, by simp⟩
  rw [compile_eq, if_neg (not_not.2 hsource.isPath), if_neg (not_not.2 hdestination),
    Pattern.bareColon?_eq_none_iff.2 hsource.colonsNamed]
  dsimp only
  rw [hnames]

theorem compile_of_error?_compileTemplate (hsource : IsSource source.toList)
    (hdestination : IsPath destination.toList) {e : CompileError}
    (h : error? (compileTemplate source destination
      (captureOrderFrom 0 (Pattern.scan source.toList))) = some e) :
    compile source destination = .error e := by
  rw [compile_of_isSource hsource hdestination, error?_eq_some_iff.1 h]
  rfl

theorem Refused.compile_eq_error {e : CompileError} (h : Refused source destination e) :
    compile source destination = .error e := by
  cases h with
  | sourcePath hfails => rw [compile_eq, if_pos hfails]
  | destinationPath hsource hfails => rw [compile_eq, if_neg (not_not.2 hsource), if_pos hfails]
  | @bareColon before after hsource hdestination hsplit hfirst hfails =>
    have hfound : Pattern.bareColon? 0 source.toList = some (String.ofList before).utf8ByteSize :=
      Pattern.bareColon?_eq_some_iff.2 ⟨before, after, hsplit, hfirst, hfails,
        (Nat.zero_add _).symm⟩
    rw [compile_eq, if_neg (not_not.2 hsource), if_neg (not_not.2 hdestination), hfound]
  | @repeatedName earlier later name hsource hdestination hcolons hsplit hfirst hfails =>
    have hfound : Pattern.firstRepeated? [] ((Pattern.scan source.toList).filterMap Token.name?) =
        some name := by
      rw [Pattern.names_scan]
      exact Pattern.firstRepeated?_eq_some_iff.2 ⟨earlier, later, hsplit, ⟨hfirst, by simp⟩,
        .inl hfails⟩
    rw [compile_eq, if_neg (not_not.2 hsource), if_neg (not_not.2 hdestination),
      Pattern.bareColon?_eq_none_iff.2 hcolons]
    dsimp only
    rw [hfound]
  | excessWildcards hsource hdestination hfails =>
    apply compile_of_error?_compileTemplate hsource hdestination
    rw [error?_compileTemplate, if_pos hfails]
  | @undefinedName earlier later name hsource hdestination hwildcards hsplit hfirst hfails =>
    apply compile_of_error?_compileTemplate hsource hdestination
    have hfound : (Pattern.names destination.toList).find? (· ∉ Pattern.names source.toList) =
        some name := by
      rw [List.find?_eq_some_iff_append]
      exact ⟨by simpa using hfails, earlier, later, hsplit, by simpa using hfirst⟩
    rw [error?_compileTemplate, if_neg (Nat.not_lt.2 hwildcards), hfound]
    rfl

theorem Acceptable.compile_eq (h : Acceptable source destination) : ∃ template,
    compile source destination =
      if Expression.sizeLimit < Expression.weight (Pattern.expression source.toList) then
        .error (.expressionTooLarge Expression.sizeLimit)
      else .ok {
        source, destination
        expression := Pattern.expression source.toList
        captureOrder := captureOrderFrom 0 (Pattern.scan source.toList)
        template } := by
  have hnone : (Pattern.names destination.toList).find? (· ∉ Pattern.names source.toList) =
      none := by
    simpa using h.names
  have hbound : error? (compileTemplate source destination
      (captureOrderFrom 0 (Pattern.scan source.toList))) = none := by
    rw [error?_compileTemplate, if_neg (Nat.not_lt.2 h.wildcards), hnone]
    rfl
  obtain ⟨template, htemplate⟩ := error?_eq_none_iff.1 hbound
  refine ⟨template, ?_⟩
  rw [compile_of_isSource h.isSource h.isPath, htemplate]
  rfl

/-- Two texts are acceptable, or one of the conditions is the first that they fail. -/
theorem acceptable_or_refused (source destination : String) :
    Acceptable source destination ∨ ∃ e, Refused source destination e := by
  by_cases hpath : IsPath source.toList
  case neg => exact .inr ⟨_, .sourcePath hpath⟩
  by_cases hdestination : IsPath destination.toList
  case neg => exact .inr ⟨_, .destinationPath hpath hdestination⟩
  cases hcolon : Pattern.bareColon? 0 source.toList with
  | some position =>
    obtain ⟨before, after, hsplit, hfirst, hfails, -⟩ := Pattern.bareColon?_eq_some_iff.1 hcolon
    exact .inr ⟨_, .bareColon hpath hdestination hsplit hfirst hfails⟩
  | none =>
    have hcolons := Pattern.bareColon?_eq_none_iff.1 hcolon
    cases hrepeated : Pattern.firstRepeated? [] (Pattern.names source.toList) with
    | some name =>
      obtain ⟨earlier, later, hsplit, ⟨hfirst, -⟩, hfails⟩ :=
        Pattern.firstRepeated?_eq_some_iff.1 hrepeated
      exact .inr ⟨_, .repeatedName hpath hdestination hcolons hsplit hfirst
        (hfails.resolve_right List.not_mem_nil)⟩
    | none =>
      have hsource : IsSource source.toList :=
        ⟨hpath, hcolons, (Pattern.firstRepeated?_eq_none_iff.1 hrepeated).1⟩
      by_cases hwildcards : destination.toList.count '*' ≤ source.toList.count '*'
      case neg => exact .inr ⟨_, .excessWildcards hsource hdestination (Nat.not_le.1 hwildcards)⟩
      cases hundefined : (Pattern.names destination.toList).find?
          (· ∉ Pattern.names source.toList) with
      | some name =>
        obtain ⟨hfails, earlier, later, hsplit, hfirst⟩ :=
          List.find?_eq_some_iff_append.1 hundefined
        exact .inr ⟨_, .undefinedName hsource hdestination hwildcards hsplit (by simpa using hfirst)
          (by simpa using hfails)⟩
      | none => exact .inl ⟨hsource, hdestination, hwildcards, by simpa using hundefined⟩

theorem compile_eq_error_iff {e : CompileError} : compile source destination = .error e ↔
    Refused source destination e ∨ Acceptable source destination ∧
      Expression.sizeLimit < Expression.weight (Pattern.expression source.toList) ∧
      e = .expressionTooLarge Expression.sizeLimit := by
  constructor
  · intro h
    obtain hacceptable | ⟨e', hrefused⟩ := acceptable_or_refused source destination
    · obtain ⟨template, hcompile⟩ := hacceptable.compile_eq
      rw [hcompile] at h
      split at h
      case isTrue hsize =>
        cases h
        exact .inr ⟨hacceptable, hsize, rfl⟩
      case isFalse => cases h
    · rw [hrefused.compile_eq_error] at h
      cases h
      exact .inl hrefused
  · rintro (hrefused | ⟨hacceptable, hsize, rfl⟩)
    · exact hrefused.compile_eq_error
    · obtain ⟨template, hcompile⟩ := hacceptable.compile_eq
      rw [hcompile, if_pos hsize]

theorem exists_compile_iff :
    (∃ rule, compile source destination = .ok rule) ↔ Acceptable source destination ∧
    Expression.weight (Pattern.expression source.toList) ≤ Expression.sizeLimit := by
  constructor
  · rintro ⟨rule, hrule⟩
    obtain hacceptable | ⟨e, hrefused⟩ := acceptable_or_refused source destination
    · have hpassed := compile_eq_ok_iff.1 hrule
      have hexpression : rule.expression = Pattern.expression source.toList := hpassed.expression_eq
      refine ⟨hacceptable, ?_⟩
      rw [← hexpression]
      exact hpassed.sizeAllowed
    · rw [hrefused.compile_eq_error] at hrule
      cases hrule
  · rintro ⟨hacceptable, hsize⟩
    obtain ⟨template, hcompile⟩ := hacceptable.compile_eq
    rw [hcompile, if_neg (Nat.not_lt.2 hsize)]
    exact ⟨_, rfl⟩

/-- Two texts compile to a rule exactly if they are acceptable and their expression is not too
large, and otherwise what is reported is the first condition that fails. The expression can always
be read back; no wildcard is without a slot, so it does not matter how a missing one would be
reported; and no text of a destination is lost on the way to its template. -/
theorem accepts_unless_refused (source destination : String) :
    ((∃ rule, compile source destination = .ok rule) ↔ Acceptable source destination ∧
      Expression.weight (Pattern.expression source.toList) ≤ Expression.sizeLimit) ∧
    (∀ e, compile source destination = .error e ↔
      Refused source destination e ∨ Acceptable source destination ∧
        Expression.sizeLimit < Expression.weight (Pattern.expression source.toList) ∧
        e = .expressionTooLarge Expression.sizeLimit) ∧
    (∃ regex, Regex.read? (Pattern.expression source.toList).text.toList = some regex) ∧
    (destination.toList.count '*' ≤ source.toList.count '*' → ∀ missing,
      compileTemplate source destination (captureOrderFrom 0 (Pattern.scan source.toList)) =
        bindByNumber (captureOrderFrom 0 (Pattern.scan source.toList))
          (.undefinedParameter source destination) missing 0
          (Pattern.scan destination.toList)) ∧
    ∀ rule, compile source destination = .ok rule →
      rule.pattern = (Pattern.expression source.toList).text ∧
        substitute (rule.captureOrder.map CaptureSlot.mark) rule.template = destination.toList := by
  refine ⟨exists_compile_iff, fun e => compile_eq_error_iff, ⟨_, Expression.read?_text _⟩, ?_, ?_⟩
  · intro henough missing
    rw [← Pattern.count_scan, ← Pattern.count_scan] at henough
    rw [compileTemplate, if_neg (by rw [length_wildcardSlots]; omega), bindByNumber_eq (by omega)]
    rfl
  · intro rule hrule
    have hpassed := compile_eq_ok_iff.1 hrule
    refine ⟨?_, hpassed.substitute_eq⟩
    rw [pattern, hpassed.expression_eq]

/-- A colon without a name is literal in a destination and refused in a source, where its place is
counted in bytes. -/
theorem accepts_colon_in_destination : ∃ rule,
    compile "/é/:lang/*" "/x:/*/:lang" = .ok rule ∧ Acceptable "/é/:lang/*" "/x:/*/:lang" ∧
    substitute (rule.captureOrder.map CaptureSlot.mark) rule.template = "/x:/*/:lang".toList ∧
    (∀ missing, bindByNumber rule.captureOrder (.undefinedParameter "/é/:lang/*" "/x:/*/:lang")
      missing 0 (Pattern.scan "/x:/*/:lang".toList) = .ok rule.template) ∧
    Refused "/é/:" "/x" (.unterminatedParameter "/é/:" 4) ∧
    compile "/é/:" "/x" = .error (.unterminatedParameter "/é/:" 4) := by
  let rule : Rule := {
    source := "/é/:lang/*"
    destination := "/x:/*/:lang"
    expression := [.literal "/é/".toList, .parameter, .literal ['/'], .wildcard]
    captureOrder := [.parameter "lang", .wildcard 0]
    template := [.literal "/x:/", .capture 1, .literal "/", .capture 0] }
  have hrule : compile "/é/:lang/*" "/x:/*/:lang" = .ok rule := by decide +kernel
  have htemplate : compileTemplate "/é/:lang/*" "/x:/*/:lang"
      (captureOrderFrom 0 (Pattern.scan "/é/:lang/*".toList)) = .ok rule.template := by
    decide +kernel
  have hrefused : compile "/é/:" "/x" = .error (.unterminatedParameter "/é/:" 4) := by
    decide +kernel
  obtain ⟨haccepted, -, -, hbound, hwritten⟩ := accepts_unless_refused "/é/:lang/*" "/x:/*/:lang"
  refine ⟨rule, hrule, (haccepted.1 ⟨rule, hrule⟩).1, (hwritten rule hrule).2, fun missing => ?_,
    ?_, hrefused⟩
  · rw [← htemplate, hbound (by decide +kernel) missing]
    rfl
  · exact (((accepts_unless_refused "/é/:" "/x").2.1 _).1 hrefused).resolve_right
      fun h => nomatch h.2.2

end Rule

end EdgeRouting
