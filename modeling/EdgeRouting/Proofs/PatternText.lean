import EdgeRouting.Pattern.Token
import Mathlib.Data.List.TakeDrop
import Mathlib.Data.List.TakeWhile

/-!
# The tokens of a pattern and its text

A scan loses nothing: the tokens, written one after another, are the pattern again, and names hold
name characters only. So what is true of colons, asterisks and name characters is true of a whole
pattern as soon as it is true of its literals.
-/

namespace EdgeRouting.Pattern

namespace Token

/-- What a character may do to the tokens behind it. A colon takes a name where the text behind it
begins with one. -/
theorem cons_cases (c : Char) (tokens : List Token) :
    (c = '*' ∧ cons c tokens = .wildcard :: tokens) ∨
    (c = ':' ∧ ∃ name rest later, tokens = .literal (name ++ rest) :: later ∧ name ≠ [] ∧
      (∀ x ∈ name, isNameChar x = true) ∧
      cons c tokens = .parameter name :: consLiteral rest later) ∨
    (c ≠ '*' ∧ cons c tokens = consLiteral [c] tokens) := by
  rw [cons.eq_def]
  by_cases hasterisk : c = '*'
  · exact .inl ⟨hasterisk, if_pos hasterisk⟩
  rw [if_neg hasterisk]
  by_cases hcolon : c = ':'
  · rw [if_pos hcolon]
    split
    · rename_i text later
      rw [List.span_eq_takeWhile_dropWhile]
      split
      · exact .inr (.inr ⟨hasterisk, rfl⟩)
      · rename_i name rest hname hsplit
        cases hsplit
        refine .inr (.inl ⟨hcolon, _, _, later, ?_, ?_, ?_, rfl⟩)
        · rw [List.takeWhile_append_dropWhile]
        · exact hname
        · intro x hx
          exact List.mem_takeWhile_imp hx
    · exact .inr (.inr ⟨hasterisk, rfl⟩)
  · rw [if_neg hcolon]
    exact .inr (.inr ⟨hasterisk, rfl⟩)

theorem consLiteral_cases (text : List Char) (tokens : List Token) :
    (∃ after later, tokens = .literal after :: later ∧
      consLiteral text tokens = .literal (text ++ after) :: later) ∨
    consLiteral text tokens = if text = [] then tokens else .literal text :: tokens := by
  match tokens with
  | .literal after :: later => exact .inl ⟨after, later, rfl, rfl⟩
  | [] => exact .inr rfl
  | .parameter name :: later => exact .inr rfl
  | .wildcard :: later => exact .inr rfl

theorem text_consLiteral (text : List Char) (tokens : List Token) :
    (consLiteral text tokens).flatMap Token.text = text ++ tokens.flatMap Token.text := by
  obtain ⟨after, later, rfl, hcons⟩ | hcons := consLiteral_cases text tokens
  · simp [hcons, Token.text]
  · rw [hcons]
    split
    · simp [*]
    · simp [Token.text]

theorem text_cons (c : Char) (tokens : List Token) :
    (cons c tokens).flatMap Token.text = c :: tokens.flatMap Token.text := by
  obtain ⟨rfl, hcons⟩ | ⟨rfl, name, rest, later, rfl, -, -, hcons⟩ | ⟨-, hcons⟩ :=
    cons_cases c tokens
  · simp [hcons, Token.text]
  · rw [hcons, List.flatMap_cons, text_consLiteral]
    simp [Token.text]
  · rw [hcons, text_consLiteral]
    rfl

theorem mem_of_parameter_mem_consLiteral {text name : List Char} {tokens : List Token}
    (h : .parameter name ∈ consLiteral text tokens) : .parameter name ∈ tokens := by
  obtain ⟨after, later, rfl, hcons⟩ | hcons := consLiteral_cases text tokens
  · rw [hcons] at h
    simpa using h
  · rw [hcons] at h
    split at h
    · exact h
    · simpa using h

end Token

theorem text_scan (pattern : List Char) : (scan pattern).flatMap Token.text = pattern := by
  induction pattern with
  | nil => rfl
  | cons c pattern ih =>
    have hscan : scan (c :: pattern) = Token.cons c (scan pattern) := rfl
    rw [hscan, Token.text_cons, ih]

theorem isNameChar_of_mem_scan {pattern name : List Char} (h : .parameter name ∈ scan pattern) :
    ∀ c ∈ name, isNameChar c = true := by
  induction pattern with
  | nil => cases h
  | cons c pattern ih =>
    have hscan : scan (c :: pattern) = Token.cons c (scan pattern) := rfl
    rw [hscan] at h
    obtain ⟨-, hcons⟩ | ⟨-, own, rest, later, htokens, -, hown, hcons⟩ | ⟨-, hcons⟩ :=
      Token.cons_cases c (scan pattern)
    · rw [hcons] at h
      exact ih (by simpa using h)
    · rw [hcons] at h
      rcases List.mem_cons.1 h with heq | hlater
      · cases heq
        exact hown
      · apply ih
        rw [htokens]
        exact List.mem_cons_of_mem _ (Token.mem_of_parameter_mem_consLiteral hlater)
    · rw [hcons] at h
      exact ih (Token.mem_of_parameter_mem_consLiteral h)

/-- A pattern that begins with a slash begins with literal text. -/
theorem scan_of_slash {pattern : List Char} (h : pattern.head? = some '/') :
    ∃ text tokens, scan pattern = .literal ('/' :: text) :: tokens := by
  obtain ⟨rest, rfl⟩ := List.head?_eq_some_iff.1 h
  have hscan : scan ('/' :: rest) = Token.consLiteral ['/'] (scan rest) := rfl
  obtain ⟨after, later, -, hcons⟩ | hcons := Token.consLiteral_cases ['/'] (scan rest)
  · exact ⟨after, later, hscan.trans hcons⟩
  · exact ⟨[], scan rest, hscan.trans hcons⟩

/-- Characters of a pattern that its marks and names cannot be are decided by its literals. -/
theorem all_scan_iff {legal : Char → Bool} (hcolon : legal ':' = true)
    (hasterisk : legal '*' = true) (hname : ∀ c, isNameChar c = true → legal c = true)
    (pattern : List Char) :
    (∀ text, .literal text ∈ scan pattern → text.all legal = true) ↔ pattern.all legal = true := by
  have htext : pattern.all legal = (scan pattern).all fun token => token.text.all legal := by
    rw [← List.all_flatMap, text_scan]
  rw [htext, List.all_eq_true]
  constructor
  · intro h token htoken
    cases token with
    | literal text => exact h text htoken
    | parameter name =>
      have hall : name.all legal = true :=
        List.all_eq_true.2 fun c hc => hname c (isNameChar_of_mem_scan htoken c hc)
      simp [Token.text, hcolon, hall]
    | wildcard => simp [Token.text, hasterisk]
  · intro h text htext
    exact h _ htext

end EdgeRouting.Pattern
