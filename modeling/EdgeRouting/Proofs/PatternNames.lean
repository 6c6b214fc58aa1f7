import EdgeRouting.Proofs.PatternText

/-!
# Names and colons in a pattern

What is asked of a pattern can be said of its text alone. The names of a pattern are what stands
behind its colons, and a colon may also stand before no name. A scan finds the same names in the
same order, and one wildcard for each asterisk. The searches that a source goes through find the
first colon without a name and the first name that comes again.
-/

namespace EdgeRouting.Pattern

def BeginsName (text : List Char) : Prop :=
  text.head?.any isNameChar = true

instance (text : List Char) : Decidable (BeginsName text) :=
  inferInstanceAs (Decidable (_ = _))

def ColonsNamed (pattern : List Char) : Prop :=
  ∀ before after, pattern = before ++ ':' :: after → BeginsName after

/-- The names of a pattern, from left to right: behind each colon the name characters up to the
first other one. -/
def names : List Char → List (List Char)
  | [] => []
  | c :: rest =>
    if c = ':' ∧ rest.takeWhile isNameChar ≠ [] then rest.takeWhile isNameChar :: names rest
    else names rest

theorem takeWhile_eq_nil_iff {text : List Char} :
    text.takeWhile isNameChar = [] ↔ ¬ BeginsName text := by
  cases text with
  | nil => simp [BeginsName]
  | cons c text => simp [BeginsName, List.takeWhile_cons]

/-- A colon is no name character, so what stands before it begins a name or nothing does. -/
theorem beginsName_append_colon {before after : List Char} :
    BeginsName (before ++ ':' :: after) ↔ BeginsName before := by
  cases before with
  | nil => simp [BeginsName, isNameChar]
  | cons c before => rfl

theorem BeginsName.append {text : List Char} (h : BeginsName text) (rest : List Char) :
    BeginsName (text ++ rest) := by
  cases text with
  | nil => exact absurd h (by decide)
  | cons c text => exact h

namespace Token

/-- No literal is empty, and none stands directly before another. -/
inductive IsCanonical : List Token → Prop
  | nil : IsCanonical []
  | literal {text : List Char} {tokens : List Token} (hne : text ≠ [])
      (hnext : ∀ after later, tokens ≠ .literal after :: later) (hrest : IsCanonical tokens) :
      IsCanonical (.literal text :: tokens)
  | parameter {name : List Char} {tokens : List Token} (hrest : IsCanonical tokens) :
      IsCanonical (.parameter name :: tokens)
  | wildcard {tokens : List Token} (hrest : IsCanonical tokens) : IsCanonical (.wildcard :: tokens)

theorem consLiteral_of_mark {tokens : List Token}
    (h : ∀ after later, tokens ≠ .literal after :: later) (text : List Char) :
    consLiteral text tokens = if text = [] then tokens else .literal text :: tokens := by
  rw [consLiteral]
  exact h

theorem IsCanonical.consLiteral {tokens : List Token} (h : IsCanonical tokens) (text : List Char) :
    IsCanonical (consLiteral text tokens) := by
  by_cases hliteral : ∃ after later, tokens = .literal after :: later
  · obtain ⟨after, later, rfl⟩ := hliteral
    cases h with
    | literal hne hnext hrest =>
      have hboth : text ++ after ≠ [] := fun heq => hne (List.append_eq_nil_iff.1 heq).2
      exact .literal hboth hnext hrest
  · have hmark : ∀ after later, tokens ≠ .literal after :: later :=
      fun after later heq => hliteral ⟨after, later, heq⟩
    rw [consLiteral_of_mark hmark]
    split
    case isTrue => exact h
    case isFalse hne => exact .literal hne hmark h

theorem IsCanonical.cons {tokens : List Token} (h : IsCanonical tokens) (c : Char) :
    IsCanonical (cons c tokens) := by
  obtain ⟨-, hcons⟩ | ⟨-, name, rest, later, rfl, -, -, hcons⟩ | ⟨-, hcons⟩ := cons_cases c tokens
  · rw [hcons]
    exact .wildcard h
  · rw [hcons]
    cases h with
    | literal _ _ hrest => exact .parameter (hrest.consLiteral rest)
  · rw [hcons]
    exact h.consLiteral [c]

theorem filterMap_name?_consLiteral (text : List Char) (tokens : List Token) :
    (consLiteral text tokens).filterMap name? = tokens.filterMap name? := by
  obtain ⟨after, later, rfl, hcons⟩ | hcons := consLiteral_cases text tokens
  · rw [hcons]
    rfl
  · rw [hcons]
    split
    · rfl
    · rfl

theorem count_consLiteral (text : List Char) (tokens : List Token) :
    (consLiteral text tokens).count .wildcard = tokens.count .wildcard := by
  obtain ⟨after, later, rfl, hcons⟩ | hcons := consLiteral_cases text tokens
  · simp [hcons]
  · rw [hcons]
    split
    · rfl
    · simp

/-- Tokens that begin with a mark begin with no name character. -/
theorem not_beginsName_of_mark {tokens : List Token}
    (h : ∀ text later, tokens ≠ .literal text :: later) :
    ¬ BeginsName (tokens.flatMap Token.text) := by
  cases tokens with
  | nil => decide
  | cons token tokens =>
    cases token with
    | literal text => exact absurd rfl (h text tokens)
    | parameter name => simp [BeginsName, text, isNameChar]
    | wildcard => simp [BeginsName, text, isNameChar]

end Token

theorem scan_cons (c : Char) (pattern : List Char) :
    scan (c :: pattern) = Token.cons c (scan pattern) := rfl

theorem isCanonical_scan (pattern : List Char) : Token.IsCanonical (scan pattern) := by
  induction pattern with
  | nil => exact .nil
  | cons c pattern ih => exact ih.cons c

/-- The literal in front of a scan holds all name characters that the pattern begins with. -/
theorem takeWhile_of_scan {pattern text : List Char} {later : List Token}
    (h : scan pattern = .literal text :: later) :
    pattern.takeWhile isNameChar = text.takeWhile isNameChar := by
  have hcanonical := isCanonical_scan pattern
  have hpattern := text_scan pattern
  rw [h] at hcanonical hpattern
  cases hcanonical with
  | literal _ hnext _ =>
    have hlater := takeWhile_eq_nil_iff.2 (Token.not_beginsName_of_mark hnext)
    rw [← hpattern, List.flatMap_cons, Token.text, List.takeWhile_append, hlater, List.append_nil]
    split
    case isTrue hall => exact ((List.takeWhile_prefix _).eq_of_length hall).symm
    case isFalse => rfl

/-- A colon takes the name characters behind it out of the literal that holds them, or it is literal
itself. -/
theorem scan_colon (pattern : List Char) :
    pattern.takeWhile isNameChar = [] ∧
    scan (':' :: pattern) = Token.consLiteral [':'] (scan pattern) ∨
    ∃ text later, scan pattern = .literal text :: later ∧ pattern.takeWhile isNameChar ≠ [] ∧
      scan (':' :: pattern) =
        .parameter (pattern.takeWhile isNameChar) ::
          Token.consLiteral (text.dropWhile isNameChar) later := by
  rw [scan_cons]
  by_cases hliteral : ∃ text later, scan pattern = .literal text :: later
  · obtain ⟨text, later, hscan⟩ := hliteral
    rw [takeWhile_of_scan hscan, hscan, Token.cons, if_neg (by decide), if_pos rfl,
      List.span_eq_takeWhile_dropWhile]
    cases hname : text.takeWhile isNameChar with
    | nil => exact .inl ⟨rfl, rfl⟩
    | cons c name => exact .inr ⟨text, later, rfl, List.cons_ne_nil c name, rfl⟩
  · have hmark : ∀ text later, scan pattern ≠ .literal text :: later :=
      fun text later heq => hliteral ⟨text, later, heq⟩
    have hname := Token.not_beginsName_of_mark hmark
    rw [text_scan] at hname
    refine .inl ⟨takeWhile_eq_nil_iff.2 hname, ?_⟩
    rw [Token.cons, if_neg (by decide), if_pos rfl]
    exact hmark

/-- A scan finds the names of a pattern. -/
theorem names_scan (pattern : List Char) :
    (scan pattern).filterMap Token.name? = names pattern := by
  induction pattern with
  | nil => rfl
  | cons c pattern ih =>
    rw [names]
    by_cases hcolon : c = ':'
    · subst hcolon
      obtain ⟨hname, hscan⟩ | ⟨text, later, hpattern, hname, hscan⟩ := scan_colon pattern
      · rw [if_neg fun h => h.2 hname, hscan, Token.filterMap_name?_consLiteral, ih]
      · have hlater : later.filterMap Token.name? = names pattern := by
          rw [← ih, hpattern]
          rfl
        rw [if_pos ⟨rfl, hname⟩, hscan, List.filterMap_cons,
          Token.filterMap_name?_consLiteral, hlater]
        rfl
    · rw [if_neg fun h => hcolon h.1, scan_cons, ← ih]
      obtain ⟨-, hcons⟩ | ⟨hcolon', -⟩ | ⟨-, hcons⟩ := Token.cons_cases c (scan pattern)
      · rw [hcons]
        rfl
      · exact absurd hcolon' hcolon
      · rw [hcons, Token.filterMap_name?_consLiteral]

/-- A scan finds a wildcard for each asterisk. -/
theorem count_scan (pattern : List Char) : (scan pattern).count .wildcard = pattern.count '*' := by
  induction pattern with
  | nil => rfl
  | cons c pattern ih =>
    rw [scan_cons, List.count_cons, ← ih]
    obtain ⟨rfl, hcons⟩ | ⟨rfl, name, rest, later, hscan, -, -, hcons⟩ | ⟨hasterisk, hcons⟩ :=
      Token.cons_cases c (scan pattern)
    · simp [hcons]
    · rw [hcons, hscan]
      simp [Token.count_consLiteral]
    · rw [hcons, Token.count_consLiteral]
      simp [hasterisk]

theorem colonsNamed_nil : ColonsNamed [] := by
  intro before after h
  cases before <;> cases h

theorem colonsNamed_cons {c : Char} {rest : List Char} :
    ColonsNamed (c :: rest) ↔ (c = ':' → BeginsName rest) ∧ ColonsNamed rest := by
  constructor
  · intro h
    refine ⟨?_, fun before after heq => h (c :: before) after (by rw [heq, List.cons_append])⟩
    rintro rfl
    exact h [] rest rfl
  · rintro ⟨hfirst, hrest⟩ before after heq
    cases before with
    | nil =>
      cases heq
      exact hfirst rfl
    | cons d before =>
      cases heq
      exact hrest before after rfl

theorem bareColon?_eq_none_iff {offset : Nat} {pattern : List Char} :
    bareColon? offset pattern = none ↔ ColonsNamed pattern := by
  induction pattern generalizing offset with
  | nil => exact iff_of_true rfl colonsNamed_nil
  | cons c rest ih =>
    rw [bareColon?, colonsNamed_cons, ← @ih (offset + c.utf8Size)]
    by_cases hbare : c = ':' ∧ ¬ BeginsName rest
    · rw [if_pos (by simpa [BeginsName] using hbare)]
      exact iff_of_false (Option.some_ne_none _) fun h => hbare.2 (h.1 hbare.1)
    · rw [if_neg (by simpa [BeginsName] using hbare), iff_and_self]
      intro _ hcolon
      exact not_not.1 fun hname => hbare ⟨hcolon, hname⟩

instance (pattern : List Char) : Decidable (ColonsNamed pattern) :=
  decidable_of_iff (bareColon? 0 pattern = none) bareColon?_eq_none_iff

/-- The position is that of the first colon that stands before no name, in bytes. -/
theorem bareColon?_eq_some_iff {offset position : Nat} {pattern : List Char} :
    bareColon? offset pattern = some position ↔
      ∃ before after, pattern = before ++ ':' :: after ∧ ColonsNamed before ∧ ¬ BeginsName after ∧
        position = offset + (String.ofList before).utf8ByteSize := by
  induction pattern generalizing offset with
  | nil => simp [bareColon?]
  | cons c rest ih =>
    rw [bareColon?]
    by_cases hbare : c = ':' ∧ ¬ BeginsName rest
    · rw [if_pos (by simpa [BeginsName] using hbare), Option.some.injEq]
      obtain ⟨rfl, hname⟩ := hbare
      constructor
      · rintro rfl
        exact ⟨[], rest, rfl, colonsNamed_nil, hname, rfl⟩
      · rintro ⟨before, after, heq, hbefore, -, rfl⟩
        cases before with
        | nil => rfl
        | cons d before =>
          cases heq
          exact absurd ((colonsNamed_cons.1 hbefore).1 rfl |>.append _) hname
    · rw [if_neg (by simpa [BeginsName] using hbare), ih]
      constructor
      · rintro ⟨before, after, rfl, hbefore, hafter, rfl⟩
        refine ⟨c :: before, after, rfl, colonsNamed_cons.2 ⟨?_, hbefore⟩, hafter, ?_⟩
        · intro hcolon
          exact beginsName_append_colon.1 (not_not.1 fun hname => hbare ⟨hcolon, hname⟩)
        · simp [String.ofList_cons, Nat.add_assoc]
      · rintro ⟨before, after, heq, hbefore, hafter, rfl⟩
        cases before with
        | nil =>
          cases heq
          exact absurd ⟨rfl, hafter⟩ hbare
        | cons d before =>
          cases heq
          refine ⟨before, after, rfl, (colonsNamed_cons.1 hbefore).2, hafter, ?_⟩
          simp [String.ofList_cons, Nat.add_assoc]

variable {seen names : List (List Char)}

theorem firstRepeated?_eq_none_iff :
    firstRepeated? seen names = none ↔ names.Nodup ∧ ∀ name ∈ names, name ∉ seen := by
  induction names generalizing seen with
  | nil => simp [firstRepeated?]
  | cons name names ih =>
    rw [firstRepeated?]
    by_cases hseen : name ∈ seen
    · rw [if_pos hseen]
      exact iff_of_false (Option.some_ne_none _) fun h => h.2 name List.mem_cons_self hseen
    · rw [if_neg hseen, ih, List.nodup_cons, List.forall_mem_cons]
      simp only [List.mem_cons, not_or]
      constructor
      · rintro ⟨hnodup, hnames⟩
        exact ⟨⟨fun hname => (hnames name hname).1 rfl, hnodup⟩, hseen,
          fun other hother => (hnames other hother).2⟩
      · rintro ⟨⟨hname, hnodup⟩, -, hnames⟩
        exact ⟨hnodup, fun other hother => ⟨fun heq => hname (heq ▸ hother), hnames other hother⟩⟩

theorem firstRepeated?_eq_some_iff {name : List Char} :
    firstRepeated? seen names = some name ↔ ∃ earlier later, names = earlier ++ name :: later ∧
      (earlier.Nodup ∧ ∀ other ∈ earlier, other ∉ seen) ∧ (name ∈ earlier ∨ name ∈ seen) := by
  induction names generalizing seen with
  | nil => simp [firstRepeated?]
  | cons first names ih =>
    rw [firstRepeated?]
    by_cases hseen : first ∈ seen
    · rw [if_pos hseen, Option.some.injEq]
      constructor
      · rintro rfl
        exact ⟨[], names, rfl, ⟨List.nodup_nil, by simp⟩, .inr hseen⟩
      · rintro ⟨earlier, later, heq, ⟨-, hearlier⟩, -⟩
        cases earlier with
        | nil =>
          cases heq
          rfl
        | cons other earlier =>
          cases heq
          exact absurd hseen (hearlier first List.mem_cons_self)
    · rw [if_neg hseen, ih]
      constructor
      · rintro ⟨earlier, later, rfl, ⟨hnodup, hearlier⟩, hname⟩
        refine ⟨first :: earlier, later, rfl, ⟨List.nodup_cons.2 ⟨?_, hnodup⟩, ?_⟩, ?_⟩
        · exact fun hmem => hearlier first hmem List.mem_cons_self
        · refine List.forall_mem_cons.2 ⟨hseen, fun other hother hmem => ?_⟩
          exact hearlier other hother (List.mem_cons_of_mem first hmem)
        · simp only [List.mem_cons] at hname ⊢
          tauto
      · rintro ⟨earlier, later, heq, ⟨hnodup, hearlier⟩, hname⟩
        cases earlier with
        | nil =>
          cases heq
          exact absurd (hname.resolve_left List.not_mem_nil) hseen
        | cons other earlier =>
          cases heq
          rw [List.nodup_cons] at hnodup
          rw [List.forall_mem_cons] at hearlier
          refine ⟨earlier, later, rfl, ⟨hnodup.2, fun other hother => ?_⟩, ?_⟩
          · rw [List.mem_cons, not_or]
            exact ⟨fun heq => hnodup.1 (heq ▸ hother), hearlier.2 other hother⟩
          · simp only [List.mem_cons] at hname ⊢
            tauto

end EdgeRouting.Pattern
