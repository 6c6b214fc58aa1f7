import EdgeRouting.Proofs.RenamedNames
import Mathlib.Order.Bounds.Basic

/-!
# Tokens as slices of a pattern

A pattern can be read in one pass that keeps byte offsets only: where the open literal began and
where the next character stands. Literals and names are cut out of the text between two offsets, and
nothing can be cut where an offset lies inside a character or the offsets are in the wrong order. No
text brings the pass to such a place. It gives the tokens of a scan, or, where colons have to stand
before names, the offset of the first one that does not. The tokens of a scan are the only ones that
say the text and hold as much as they can.
-/

namespace EdgeRouting.Pattern

/-- Why a pass has no tokens to give: a colon stands before no name, or there is nothing to cut
between two offsets. -/
inductive Stop
  | bareColon (position : Nat)
  | noSlice (start stop : Nat)
  deriving DecidableEq, Repr

/-- The text between two byte offsets, if both lie between characters and the first does not lie
behind the second. -/
def slice? (text : String) (start stop : Nat) : Option String := do
  let first ← text.pos? ⟨start⟩
  let last ← text.pos? ⟨stop⟩
  let slice ← text.slice? first last
  return slice.copy

def cut (text : String) (start stop : Nat) : Except Stop (List Char) :=
  match slice? text start stop with
  | some piece => .ok piece.toList
  | none => .error (.noSlice start stop)

def cutLiteral (text : String) (start stop : Nat) : Except Stop (List Token) :=
  if start < stop then do return [.literal (← cut text start stop)] else return []

def skipName (position : Nat) : List Char → Nat × List Char
  | [] => (position, [])
  | c :: rest =>
    if isNameChar c then skipName (position + c.utf8Size) rest else (position, c :: rest)

theorem length_skipName_le (position : Nat) (text : List Char) :
    (skipName position text).2.length ≤ text.length := by
  induction text generalizing position with
  | nil => exact Nat.le_refl _
  | cons c rest ih =>
    rw [skipName]
    split
    case isTrue => exact Nat.le_succ_of_le (ih _)
    case isFalse => exact Nat.le_refl _

/-- The tokens from `start` on, where the open literal began. The rest of the text stands at
`position`. -/
def tokenizeFrom (strict : Bool) (text : String) (start position : Nat) :
    List Char → Except Stop (List Token)
  | [] => cutLiteral text start text.utf8ByteSize
  | c :: rest =>
    if c = '*' then do
      let literal ← cutLiteral text start position
      let later ← tokenizeFrom strict text (position + 1) (position + 1) rest
      return literal ++ .wildcard :: later
    else if c = ':' then
      let behind := skipName (position + 1) rest
      if behind.1 = position + 1 then
        if strict then throw (.bareColon position)
        else tokenizeFrom strict text start (position + 1) behind.2
      else do
        let literal ← cutLiteral text start position
        let name ← cut text (position + 1) behind.1
        let later ← tokenizeFrom strict text behind.1 behind.1 behind.2
        return literal ++ .parameter name :: later
    else tokenizeFrom strict text start (position + c.utf8Size) rest
termination_by rest => rest.length
decreasing_by all_goals grind [length_skipName_le]

/-- The tokens of a pattern in one pass. A strict pass stops at a colon that stands before no
name. -/
def tokenize (strict : Bool) (pattern : String) : Except Stop (List Token) :=
  tokenizeFrom strict pattern 0 0 pattern.toList

variable {text : String} {start position : Nat} {run name rest pattern : List Char}
  {tokens : List Token}

theorem pos?_eq_some_iff {offset : Nat} {p : text.Pos} :
    text.pos? ⟨offset⟩ = some p ↔ p.offset.byteIdx = offset := by
  rw [String.pos?, String.Slice.pos?]
  constructor
  · intro h
    split at h
    case isTrue =>
      cases h
      rfl
    case isFalse => cases h
  · rintro rfl
    have hvalid := String.Pos.Raw.isValidForSlice_eq_true_iff.2 p.isValid.toSlice
    rw [dif_pos hvalid]
    rfl

theorem byteIdx_of_splits {p : text.Pos} {before after : String} (h : p.Splits before after) :
    p.offset.byteIdx = before.utf8ByteSize := by
  rw [h.offset_eq_rawEndPos, String.byteIdx_rawEndPos]

/-- A piece can be cut out where it stands, and nowhere else. -/
theorem slice?_eq_some_iff {piece : String} {stop : Nat} :
    slice? text start stop = some piece ↔ ∃ before after, text = before ++ piece ++ after ∧
      start = before.utf8ByteSize ∧ stop = (before ++ piece).utf8ByteSize := by
  simp only [slice?, Option.bind_eq_bind, Option.bind_eq_some_iff, pos?_eq_some_iff, String.slice?]
  constructor
  · rintro ⟨first, rfl, last, rfl, slice, hslice, hpiece⟩
    split at hslice
    case isTrue horder =>
      cases hslice
      obtain ⟨before, after, hfirst, hlast⟩ :=
        String.copy_slice_eq_iff_splits.1 ⟨horder, Option.some.inj hpiece⟩
      exact ⟨before, after, hlast.eq_append, byteIdx_of_splits hfirst, byteIdx_of_splits hlast⟩
    case isFalse => cases hslice
  · rintro ⟨before, after, htext, rfl, rfl⟩
    have hfirst := String.Pos.splits_ofEqAppend (htext.trans String.append_assoc)
    have hlast := String.Pos.splits_ofEqAppend htext
    obtain ⟨horder, hpiece⟩ := String.copy_slice_eq_iff_splits.2 ⟨before, after, hfirst, hlast⟩
    exact ⟨_, byteIdx_of_splits hfirst, _, byteIdx_of_splits hlast, _, dif_pos horder,
      congrArg some hpiece⟩

theorem Token.consLiteral_to_nil (run : List Char) :
    consLiteral run [] = if run = [] then [] else [.literal run] :=
  rfl

/-- Where a pass stands in a text: a run of characters lies between the two offsets, and the rest
behind the second. -/
def StandsAt (text : String) (start position : Nat) (run rest : List Char) : Prop :=
  ∃ before, text = before ++ String.ofList run ++ String.ofList rest ∧ start = before.utf8ByteSize ∧
    position = start + (String.ofList run).utf8ByteSize

namespace StandsAt

theorem initial (text : String) : StandsAt text 0 0 [] text.toList :=
  ⟨"", by simp, rfl, rfl⟩

/-- The pass goes on, and the run grows. -/
theorem advance (more : List Char) (h : StandsAt text start position run (more ++ rest)) :
    StandsAt text start (position + (String.ofList more).utf8ByteSize) (run ++ more) rest := by
  obtain ⟨before, rfl, hstart, rfl⟩ := h
  refine ⟨before, ?_, hstart, ?_⟩
  · simp only [String.ofList_append, String.append_assoc]
  · rw [String.ofList_append, String.utf8ByteSize_append, Nat.add_assoc]

/-- A new run begins where the pass stands. -/
theorem close (h : StandsAt text start position run rest) :
    StandsAt text position position [] rest := by
  obtain ⟨before, rfl, rfl, rfl⟩ := h
  refine ⟨before ++ String.ofList run, ?_, ?_, rfl⟩
  · rw [String.ofList_nil, String.append_empty]
  · rw [String.utf8ByteSize_append]

theorem cut (h : StandsAt text start position run rest) :
    Pattern.cut text start position = .ok run := by
  obtain ⟨before, htext, hstart, hposition⟩ := h
  have hslice : slice? text start position = some (String.ofList run) := by
    refine slice?_eq_some_iff.2 ⟨before, String.ofList rest, htext, hstart, ?_⟩
    rw [String.utf8ByteSize_append, hposition, hstart]
  rw [Pattern.cut, hslice]
  exact congrArg Except.ok String.toList_ofList

theorem lt_iff (h : StandsAt text start position run rest) : start < position ↔ run ≠ [] := by
  obtain ⟨-, -, -, rfl⟩ := h
  rw [Nat.lt_add_right_iff_pos, Nat.pos_iff_ne_zero, ne_eq, String.utf8ByteSize_eq_zero_iff,
    String.ofList_eq_empty_iff]

theorem cutLiteral (h : StandsAt text start position run rest) :
    Pattern.cutLiteral text start position = .ok (Token.consLiteral run []) := by
  rw [Pattern.cutLiteral, Token.consLiteral_to_nil]
  by_cases hrun : run = []
  · rw [if_neg (h.lt_iff.not_left.2 hrun), if_pos hrun]
    rfl
  · rw [if_pos (h.lt_iff.2 hrun), if_neg hrun, h.cut]
    rfl

theorem utf8ByteSize_eq (h : StandsAt text start position run []) :
    text.utf8ByteSize = position := by
  obtain ⟨before, rfl, rfl, rfl⟩ := h
  rw [String.ofList_nil, String.append_empty, String.utf8ByteSize_append]

end StandsAt

/-- A pattern is empty, or an asterisk, a colon and its name, or another character stands before a
pattern. -/
theorem pattern_induction {motive : List Char → Prop} (nil : motive [])
    (asterisk : ∀ rest, motive rest → motive ('*' :: rest))
    (parameter : ∀ name rest, name ≠ [] → (∀ c ∈ name, isNameChar c = true) → ¬ BeginsName rest →
      motive rest →
      motive (':' :: (name ++ rest)))
    (literal : ∀ c rest, c ≠ '*' → (c = ':' → ¬ BeginsName rest) → motive rest →
      motive (c :: rest)) :
    ∀ pattern, motive pattern
  | [] => nil
  | c :: rest => by
    have ih := pattern_induction nil asterisk parameter literal rest
    by_cases hasterisk : c = '*'
    · rw [hasterisk]
      exact asterisk rest ih
    by_cases hcolon : c = ':' → ¬ BeginsName rest
    · exact literal c rest hasterisk hcolon ih
    · obtain ⟨rfl, hname⟩ := Classical.not_imp.1 hcolon
      have ih := pattern_induction nil asterisk parameter literal (rest.dropWhile isNameChar)
      have hmotive := parameter (rest.takeWhile isNameChar) (rest.dropWhile isNameChar)
        (fun hnil => hname (takeWhile_eq_nil_iff.1 hnil)) (fun c hc => List.mem_takeWhile_imp hc)
        (not_beginsName_dropWhile rest) ih
      rwa [List.takeWhile_append_dropWhile] at hmotive
termination_by pattern => pattern.length
decreasing_by
  · exact Nat.lt_succ_self _
  · exact Nat.lt_succ_of_le (List.length_dropWhile_le _ _)

theorem skipName_eq_self (hrest : ¬ BeginsName rest) :
    skipName position rest = (position, rest) := by
  cases rest with
  | nil => rfl
  | cons c rest => exact if_neg hrest

theorem skipName_append (hname : ∀ c ∈ name, isNameChar c = true) (hrest : ¬ BeginsName rest) :
    skipName position (name ++ rest) = (position + (String.ofList name).utf8ByteSize, rest) := by
  induction name generalizing position with
  | nil => exact skipName_eq_self hrest
  | cons c name ih =>
    rw [List.cons_append, skipName, if_pos (hname c List.mem_cons_self),
      ih fun d hd => hname d (List.mem_cons_of_mem c hd), String.ofList_cons,
      String.utf8ByteSize_append, String.utf8ByteSize_singleton, Nat.add_assoc]

theorem beginsName_append (hne : name ≠ []) (hname : ∀ c ∈ name, isNameChar c = true)
    (rest : List Char) : BeginsName (name ++ rest) := by
  obtain ⟨c, name, rfl⟩ := List.exists_cons_of_ne_nil hne
  exact hname c List.mem_cons_self

theorem bareColon?_colon (position : Nat) (rest : List Char) :
    bareColon? position (':' :: rest) = if BeginsName rest then
      bareColon? (position + 1) rest else some position := by
  rw [bareColon?]
  by_cases hname : BeginsName rest
  · rw [if_pos hname, if_neg (by simpa [BeginsName] using hname)]
    rfl
  · rw [if_neg hname, if_pos (by simpa [BeginsName] using hname)]

theorem bareColon?_append_of_isNameChar (hname : ∀ c ∈ name, isNameChar c = true)
    (rest : List Char) :
    bareColon? position (name ++ rest) =
      bareColon? (position + (String.ofList name).utf8ByteSize) rest := by
  induction name generalizing position with
  | nil => rfl
  | cons c name ih =>
    have hcolon : c ≠ ':' := by
      rintro rfl
      cases hname ':' List.mem_cons_self
    rw [List.cons_append, bareColon?, if_neg fun h => hcolon h.1,
      ih fun d hd => hname d (List.mem_cons_of_mem c hd), String.ofList_cons,
      String.utf8ByteSize_append, String.utf8ByteSize_singleton, Nat.add_assoc]

def judge (strict : Bool) (position : Nat) (rest : List Char) (tokens : List Token) :
    Except Stop (List Token) :=
  match if strict then bareColon? position rest else none with
  | some position => .error (.bareColon position)
  | none => .ok tokens

variable {strict : Bool}

theorem map_judge (f : List Token → List Token) :
    (do return f (← judge strict position rest tokens)) =
      judge strict position rest (f tokens) := by
  rw [judge, judge]
  split <;> rfl

theorem judge_congr {position' : Nat} {rest' : List Char}
    (h : bareColon? position rest = bareColon? position' rest') :
    judge strict position rest tokens = judge strict position' rest' tokens := by
  rw [judge, judge, h]

theorem judge_of_bareColon?_eq_none (h : bareColon? position rest = none) :
    judge strict position rest tokens = .ok tokens := by
  rw [judge, h, ite_self]

theorem Token.consLiteral_nil_append (run : List Char) {token : Token}
    (h : ∀ text, token ≠ .literal text) (later : List Token) :
    consLiteral run [] ++ token :: later = consLiteral run (token :: later) := by
  have hmark : ∀ after own, token :: later ≠ .literal after :: own :=
    fun after _ heq => h after (List.cons.inj heq).1
  rw [consLiteral_of_mark hmark, consLiteral_to_nil]
  split
  · rfl
  · rfl

/-- The run goes to the tokens of the rest, whatever it holds. -/
theorem tokenizeFrom_eq (h : StandsAt text start position run rest) :
    tokenizeFrom strict text start position rest =
      judge strict position rest (Token.consLiteral run (scan rest)) := by
  -- for every run at once: a mark cuts it off, and any other character makes it longer
  induction rest using pattern_induction generalizing start position run with
  | nil =>
    rw [tokenizeFrom, h.utf8ByteSize_eq, h.cutLiteral, judge_of_bareColon?_eq_none rfl]
    rfl
  | asterisk rest ih =>
    have hbehind : StandsAt text (position + 1) (position + 1) [] rest := (h.advance ['*']).close
    have hscan : scan ('*' :: rest) = .wildcard :: scan rest := rfl
    have hmark : ∀ literal, Token.wildcard ≠ .literal literal := nofun
    rw [tokenizeFrom, if_pos rfl, h.cutLiteral, ih hbehind, Token.consLiteral_nil, hscan,
      ← Token.consLiteral_nil_append run hmark]
    exact map_judge (Token.consLiteral run [] ++ .wildcard :: ·)
  | parameter name rest hne hname hrest ih =>
    have hcolon : StandsAt text (position + 1) (position + 1) [] (name ++ rest) :=
      (h.advance [':']).close
    have hbehind :
        StandsAt text (position + 1) (position + 1 + (String.ofList name).utf8ByteSize) name rest :=
      hcolon.advance name
    have hmark : ∀ literal, Token.parameter name ≠ .literal literal := nofun
    have hbare : bareColon? position (':' :: (name ++ rest)) =
        bareColon? (position + 1 + (String.ofList name).utf8ByteSize) rest := by
      rw [bareColon?_colon, if_pos (beginsName_append hne hname rest),
        bareColon?_append_of_isNameChar hname]
    rw [tokenizeFrom, if_neg (by decide), if_pos rfl, skipName_append hname hrest,
      if_neg (hbehind.lt_iff.2 hne).ne', h.cutLiteral, hbehind.cut, ih hbehind.close,
      Token.consLiteral_nil, scan_parameter hne hname hrest,
      ← Token.consLiteral_nil_append run hmark, judge_congr hbare]
    exact map_judge (Token.consLiteral run [] ++ .parameter name :: ·)
  | literal c rest hasterisk hcolon ih =>
    have hbehind := h.advance [c]
    rw [← String.singleton_eq_ofList, String.utf8ByteSize_singleton] at hbehind
    rw [tokenizeFrom, if_neg hasterisk, scan_cons_of_literal hasterisk hcolon,
      ← Token.consLiteral_append]
    by_cases hc : c = ':'
    · -- no name is gone past, so a strict pass ends here and a lenient one stays in the run
      subst hc
      rw [if_pos rfl, skipName_eq_self (hcolon rfl), if_pos rfl]
      cases strict with
      | true =>
        rw [judge, if_pos rfl, if_pos rfl, bareColon?_colon, if_neg (hcolon rfl)]
        rfl
      | false => exact ih hbehind
    · rw [if_neg hc, ih hbehind]
      exact judge_congr (if_neg fun h => hc h.1).symm

theorem tokenize_eq (strict : Bool) (pattern : String) :
    tokenize strict pattern = judge strict 0 pattern.toList (scan pattern.toList) := by
  rw [tokenize, tokenizeFrom_eq (StandsAt.initial pattern), Token.consLiteral_nil]

namespace Token

/-- Tokens that hold as much as they can. A literal holds all that stands there, but no asterisk and
no colon before a name. A name holds all name characters behind its colon. -/
inductive IsReading : List Token → Prop
  | nil : IsReading []
  | literal {text : List Char} {later : List Token} (hne : text ≠ []) (hasterisk : '*' ∉ text)
      (hcolon : ∀ before after, text = before ++ ':' :: after →
        ¬ BeginsName (after ++ later.flatMap Token.text))
      (hnext : ∀ after own, later ≠ .literal after :: own) (hlater : IsReading later) :
      IsReading (.literal text :: later)
  | parameter {name : List Char} {later : List Token} (hne : name ≠ [])
      (hname : ∀ c ∈ name, 'A' ≤ c ∧ c ≤ 'Z' ∨ 'a' ≤ c ∧ c ≤ 'z' ∨ '0' ≤ c ∧ c ≤ '9' ∨ c = '_')
      (hnext : ¬ BeginsName (later.flatMap Token.text)) (hlater : IsReading later) :
      IsReading (.parameter name :: later)
  | wildcard {later : List Token} (hlater : IsReading later) : IsReading (.wildcard :: later)

/-- A character that is no mark joins the literal behind it, or becomes one. -/
theorem IsReading.consLiteral {c : Char} (h : IsReading tokens) (hasterisk : c ≠ '*')
    (hcolon : c = ':' → ¬ BeginsName (tokens.flatMap Token.text)) :
    IsReading (consLiteral [c] tokens) := by
  by_cases hliteral : ∃ text later, tokens = .literal text :: later
  · obtain ⟨text, later, rfl⟩ := hliteral
    cases h with
    | literal hne hown hcolons hnext hlater =>
      refine .literal (List.cons_ne_nil c text) ?_ ?_ hnext hlater
      · exact fun hmem => (List.mem_cons.1 hmem).elim (hasterisk ·.symm) hown
      · intro before after heq
        cases before with
        | nil =>
          cases heq
          exact hcolon rfl
        | cons d before =>
          cases heq
          exact hcolons before after rfl
  · have hmark : ∀ text later, tokens ≠ .literal text :: later :=
      fun text later heq => hliteral ⟨text, later, heq⟩
    rw [consLiteral_of_mark hmark, if_neg (List.cons_ne_nil c [])]
    refine .literal (List.cons_ne_nil c []) ?_ ?_ hmark h
    · exact fun hmem => hasterisk (List.mem_singleton.1 hmem).symm
    · intro before after heq
      cases before with
      | nil =>
        cases heq
        exact hcolon rfl
      | cons d before => cases before <;> cases heq

end Token

theorem isNameChar_iff {c : Char} :
    isNameChar c = true ↔ 'A' ≤ c ∧ c ≤ 'Z' ∨ 'a' ≤ c ∧ c ≤ 'z' ∨ '0' ≤ c ∧ c ≤ '9' ∨ c = '_' := by
  have hrange (first last : Char) :
      (decide (c.val ≥ first.val) && decide (c.val ≤ last.val)) = true ↔ first ≤ c ∧ c ≤ last := by
    rw [Bool.and_eq_true, decide_eq_true_iff, decide_eq_true_iff]
    rfl
  have hupper : c.isUpper = true ↔ 'A' ≤ c ∧ c ≤ 'Z' := decide_eq_true_iff
  have hlower : c.isLower = true ↔ 'a' ≤ c ∧ c ≤ 'z' := hrange 'a' 'z'
  have hdigit : c.isDigit = true ↔ '0' ≤ c ∧ c ≤ '9' := hrange '0' '9'
  have halpha : c.isAlpha = true ↔ c.isUpper = true ∨ c.isLower = true := Bool.or_eq_true_iff ..
  have halphanum : c.isAlphanum = true ↔ c.isAlpha = true ∨ c.isDigit = true :=
    Bool.or_eq_true_iff ..
  rw [isNameChar, Bool.or_eq_true, halphanum, halpha, hupper, hlower, hdigit, beq_iff_eq,
    or_assoc, or_assoc]

theorem isReading_scan (pattern : List Char) : Token.IsReading (scan pattern) := by
  induction pattern using pattern_induction with
  | nil => exact .nil
  | asterisk rest ih => exact .wildcard ih
  | parameter name rest hne hname hrest ih =>
    rw [scan_parameter hne hname hrest]
    refine .parameter hne (fun c hc => isNameChar_iff.1 (hname c hc)) ?_ ih
    rwa [text_scan]
  | literal c rest hasterisk hcolon ih =>
    rw [scan_cons_of_literal hasterisk hcolon]
    refine ih.consLiteral hasterisk ?_
    rwa [text_scan]

theorem scan_append_of_literal {text : List Char} (hasterisk : '*' ∉ text)
    (hcolon : ∀ before after, text = before ++ ':' :: after → ¬ BeginsName (after ++ rest)) :
    scan (text ++ rest) = Token.consLiteral text (scan rest) := by
  induction text with
  | nil => exact (Token.consLiteral_nil _).symm
  | cons c text ih =>
    have hc : c ≠ '*' := fun heq => hasterisk (heq ▸ List.mem_cons_self)
    have hbare : c = ':' → ¬ BeginsName (text ++ rest) := fun heq => hcolon [] text (heq ▸ rfl)
    have ih := ih (fun hmem => hasterisk (List.mem_cons_of_mem c hmem))
      fun before after heq => hcolon (c :: before) after (congrArg (c :: ·) heq)
    rw [List.cons_append, scan_cons_of_literal hc hbare, ih, ← Token.consLiteral_append]
    rfl

/-- No other tokens say the same text. -/
theorem Token.IsReading.scan_eq (h : Token.IsReading tokens) :
    scan (tokens.flatMap Token.text) = tokens := by
  induction h with
  | nil => rfl
  | literal hne hasterisk hcolon hnext hlater ih =>
    rw [List.flatMap_cons, Token.text, scan_append_of_literal hasterisk hcolon, ih,
      Token.consLiteral_of_mark hnext, if_neg hne]
  | parameter hne hname hnext hlater ih =>
    rw [List.flatMap_cons, Token.text, List.cons_append,
      scan_parameter hne (fun c hc => isNameChar_iff.2 (hname c hc)) hnext, ih]
  | wildcard hlater ih =>
    rw [List.flatMap_cons]
    exact congrArg (Token.wildcard :: ·) ih

def IsBareColon (pattern : List Char) (position : Nat) : Prop :=
  ∃ before after, pattern = before ++ ':' :: after ∧ ¬ BeginsName after ∧
    position = (String.ofList before).utf8ByteSize

theorem colonsNamed_iff_not_isBareColon :
    ColonsNamed pattern ↔ ∀ position, ¬ IsBareColon pattern position := by
  constructor
  · rintro h position ⟨before, after, heq, hafter, -⟩
    exact hafter (h before after heq)
  · intro h before after heq
    exact Classical.not_not.1 fun hafter => h _ ⟨before, after, heq, hafter, rfl⟩

/-- The colon that the search finds stands before all others of its kind. -/
theorem isLeast_of_bareColon? (h : bareColon? 0 pattern = some position) :
    IsLeast {position | IsBareColon pattern position} position := by
  obtain ⟨before, after, rfl, hbefore, hafter, rfl⟩ := bareColon?_eq_some_iff.1 h
  rw [Nat.zero_add]
  refine ⟨⟨before, after, rfl, hafter, rfl⟩, ?_⟩
  rintro other ⟨before', after', heq, hafter', rfl⟩
  obtain ⟨between, rfl, -⟩ | ⟨between, rfl, hbetween⟩ := List.append_eq_append_iff.1 heq
  · rw [String.ofList_append, String.utf8ByteSize_append]
    exact Nat.le_add_right _ _
  · cases between with
    | nil =>
      rw [List.append_nil]
    | cons c between =>
      -- the other colon would stand in the text before the first
      cases hbetween
      have hname := hbefore before' between rfl
      exact absurd (hname.append _) hafter'

theorem tokenize_lenient (pattern : String) : tokenize false pattern = .ok (scan pattern.toList) :=
  tokenize_eq false pattern

/-- A strict pass stops at the first colon that stands before no name, or there is none and it gives
the tokens. -/
theorem tokenize_strict_cases (pattern : String) :
    (∃ position, IsLeast {position | IsBareColon pattern.toList position} position ∧
      tokenize true pattern = .error (.bareColon position)) ∨
    (∀ position, ¬ IsBareColon pattern.toList position) ∧
    tokenize true pattern = .ok (scan pattern.toList) := by
  rw [tokenize_eq]
  cases hfound : bareColon? 0 pattern.toList with
  | some position =>
    refine .inl ⟨position, isLeast_of_bareColon? hfound, ?_⟩
    rw [judge, if_pos rfl, hfound]
  | none =>
    have hnamed := colonsNamed_iff_not_isBareColon.1 (bareColon?_eq_none_iff.1 hfound)
    exact .inr ⟨hnamed, judge_of_bareColon?_eq_none hfound⟩

/-- A pass that gives tokens gives those of a scan. -/
theorem eq_scan_of_tokenize {strict : Bool} {pattern : String} {tokens : List Token}
    (h : tokenize strict pattern = .ok tokens) : tokens = scan pattern.toList := by
  rw [tokenize_eq, judge] at h
  split at h
  case h_1 => cases h
  case h_2 => exact (Except.ok.inj h).symm

/-- A pass loses nothing and cuts nowhere it must not. A lenient pass always gives tokens, and a
strict one the same tokens, unless some colon stands before no name: then it stops with the offset
of the first such colon. -/
theorem tokenize_lossless (pattern : String) :
    tokenize false pattern = .ok (scan pattern.toList) ∧
    (∀ strict tokens, tokenize strict pattern = .ok tokens →
      String.ofList (tokens.flatMap Token.text) = pattern ∧ Token.IsReading tokens) ∧
    (∀ strict start stop, tokenize strict pattern ≠ .error (.noSlice start stop)) ∧
    ((∃ stop, tokenize true pattern = .error stop) ↔ ∃ position,
      IsBareColon pattern.toList position) ∧
    (∀ position, tokenize true pattern = .error (.bareColon position) ↔
      IsLeast {position | IsBareColon pattern.toList position} position) ∧
    ((∀ position, ¬ IsBareColon pattern.toList position) →
      tokenize true pattern = tokenize false pattern) := by
  have hlenient := tokenize_lenient pattern
  refine ⟨hlenient, ?_, ?_, ?_⟩
  · intro strict tokens h
    rw [eq_scan_of_tokenize h, text_scan, String.ofList_toList]
    exact ⟨rfl, isReading_scan pattern.toList⟩
  · intro strict start stop h
    rw [tokenize_eq, judge] at h
    split at h
    case h_1 => cases h
    case h_2 => cases h
  · obtain ⟨first, hfirst, hpass⟩ | ⟨hnamed, hpass⟩ := tokenize_strict_cases pattern
    · refine ⟨iff_of_true ⟨_, hpass⟩ ⟨first, hfirst.1⟩, ?_, fun h => absurd hfirst.1 (h first)⟩
      intro position
      rw [hpass]
      constructor
      · intro h
        cases h
        exact hfirst
      · intro h
        rw [hfirst.unique h]
    · rw [hpass]
      refine ⟨iff_of_false nofun (not_exists.2 hnamed), ?_, fun _ => hlenient.symm⟩
      exact fun position => iff_of_false nofun fun h => hnamed position h.1

theorem tokenize_two_bytes :
    tokenize true "/é:a*:b" =
      .ok [.literal ['/', 'é'], .parameter ['a'], .wildcard, .parameter ['b']] ∧
    Token.IsReading [.literal ['/', 'é'], .parameter ['a'], .wildcard, .parameter ['b']] ∧
    tokenize true "/é::a*:b:" = .error (.bareColon 3) ∧
    tokenize false "/é::a*:b:" =
      .ok [.literal ['/', 'é', ':'], .parameter ['a'], .wildcard, .parameter ['b'],
        .literal [':']] := by
  obtain ⟨hlenient, hreading, -, -, -, hsame⟩ := tokenize_lossless "/é:a*:b"
  have hnamed : ColonsNamed "/é:a*:b".toList := by decide
  have hstrict := (hsame (colonsNamed_iff_not_isBareColon.1 hnamed)).trans hlenient
  obtain ⟨hlenient', -, -, -, hfirst, -⟩ := tokenize_lossless "/é::a*:b:"
  have hbare : bareColon? 0 "/é::a*:b:".toList = some 3 := by decide
  exact ⟨hstrict, (hreading true _ hstrict).2,
    (hfirst 3).2 (isLeast_of_bareColon? hbare), hlenient'⟩

end EdgeRouting.Pattern
