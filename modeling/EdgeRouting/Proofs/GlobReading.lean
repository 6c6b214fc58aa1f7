import EdgeRouting.Glob.Basic
import EdgeRouting.Proofs.Accepted

/-!
# The tokens of a glob

`Reads` says what the tokens of a glob are: literal runs as long as they go, `**/` before `**`
before `*`, and groups of plain alternatives. A scan gives exactly these tokens, wherever the glob
begins.
-/

namespace EdgeRouting.Glob

def operators : List Char := ['*', '\x7b', '\x7d']

def groupOperators : List Char := [',', '\x7b', '\x7d']

def braces : List Char := ['\x7b', '\x7d']

/-- The alternatives of a group: at least one, not only an empty one, and none with a comma or a
brace. -/
structure IsGroup (alternatives : List (List Char)) : Prop where
  ne_nil : alternatives ≠ []
  ne_empty : alternatives ≠ [[]]
  plain : ∀ alternative ∈ alternatives, ∀ c ∈ alternative, c ∉ groupOperators

inductive Reads : List Char → List Token → Prop
  | nil : Reads [] []
  | literal {text rest : List Char} {tokens : List Token} (hne : text ≠ [])
      (hplain : ∀ c ∈ text, c ∉ operators) (hend : ∀ c ∈ rest.head?, c ∈ operators)
      (hrest : Reads rest tokens) :
      Reads (text ++ rest) (.literal text :: tokens)
  | star {rest : List Char} {tokens : List Token} (hend : rest.head? ≠ some '*')
      (hrest : Reads rest tokens) :
      Reads ('*' :: rest) (.star :: tokens)
  | doubleStar {rest : List Char} {tokens : List Token} (hend : rest.head? ≠ some '/')
      (hrest : Reads rest tokens) :
      Reads ('*' :: '*' :: rest) (.doubleStar :: tokens)
  | directories {rest : List Char} {tokens : List Token} (hrest : Reads rest tokens) :
      Reads ('*' :: '*' :: '/' :: rest) (.directories :: tokens)
  | group {alternatives : List (List Char)} {rest : List Char} {tokens : List Token}
      (hgroup : IsGroup alternatives) (hrest : Reads rest tokens) :
      Reads ('\x7b' :: ([','].intercalate alternatives ++ '\x7d' :: rest))
        (.group alternatives :: tokens)

theorem scan_nil (position : Nat) : scan position [] = .ok [] := rfl

theorem scan_directories (position : Nat) (rest : List Char) :
    scan position ('*' :: '*' :: '/' :: rest) =
      return .directories :: (← scan (position + 3) rest) := rfl

theorem scan_doubleStar (position : Nat) {rest : List Char} (h : rest.head? ≠ some '/') :
    scan position ('*' :: '*' :: rest) = return .doubleStar :: (← scan (position + 2) rest) := by
  rw [scan]
  rintro tail rfl
  simp at h

theorem scan_star (position : Nat) {rest : List Char} (h : rest.head? ≠ some '*') :
    scan position ('*' :: rest) = return .star :: (← scan (position + 1) rest) := by
  rw [scan]
  · rintro tail rfl
    simp at h
  · rintro tail rfl
    simp at h

theorem scan_literal (position : Nat) {c : Char} (hc : c ∉ operators) (rest : List Char) :
    scan position (c :: rest) = return Token.cons c (← scan (position + c.utf8Size) rest) := by
  simp only [operators, List.mem_cons, not_or] at hc
  rw [scan]
  all_goals grind

theorem scan_group (position : Nat) {rest : List Char} (h : rest.head? ≠ some '\x7d') :
    scan position ('\x7b' :: rest) = do
      let (alternatives, tokens) ← scanGroup position (position + 1) rest
      return .group alternatives :: tokens := by
  rw [scan]
  rintro tail rfl
  simp at h

theorem scan_emptyGroup (position : Nat) (rest : List Char) :
    scan position ('\x7b' :: '\x7d' :: rest) = .error (.invalidAlternation position) := rfl

theorem scan_close (position : Nat) (rest : List Char) :
    scan position ('\x7d' :: rest) = .error (.unbalancedBrace position) := rfl

theorem scanGroup_nil (opened position : Nat) :
    scanGroup opened position [] = .error (.unbalancedBrace opened) := rfl

theorem scanGroup_close (opened position : Nat) (rest : List Char) :
    scanGroup opened position ('\x7d' :: rest) = return ([[]], ← scan (position + 1) rest) := rfl

theorem scanGroup_open (opened position : Nat) (rest : List Char) :
    scanGroup opened position ('\x7b' :: rest) = .error (.invalidAlternation position) := rfl

theorem scanGroup_comma (opened position : Nat) (rest : List Char) :
    scanGroup opened position (',' :: rest) = do
      let (alternatives, tokens) ← scanGroup opened (position + 1) rest
      return ([] :: alternatives, tokens) := rfl

theorem scanGroup_plain (opened position : Nat) {c : Char} (hc : c ∉ groupOperators)
    (rest : List Char) :
    scanGroup opened position (c :: rest) = do
      let (alternatives, tokens) ← scanGroup opened (position + c.utf8Size) rest
      return (consAlternative c alternatives, tokens) := by
  simp only [groupOperators, List.mem_cons, not_or] at hc
  rw [scanGroup]
  all_goals grind

/-- What is read as the alternatives of a group is written so, up to the closing brace. -/
theorem scanGroup_eq_ok {opened position : Nat} {text : List Char} {alternatives : List (List Char)}
    {tokens : List Token} (h : scanGroup opened position text = .ok (alternatives, tokens)) :
    alternatives ≠ [] ∧ (∀ alternative ∈ alternatives, ∀ c ∈ alternative, c ∉ groupOperators) ∧
      ∃ rest later, text = [','].intercalate alternatives ++ '\x7d' :: rest ∧
      scan later rest = .ok tokens := by
  induction text generalizing position alternatives with
  | nil =>
    rw [scanGroup_nil] at h
    cases h
  | cons c text ih =>
    by_cases hc : c ∈ groupOperators
    · simp only [groupOperators, List.mem_cons, List.not_mem_nil, or_false] at hc
      rcases hc with rfl | rfl | rfl
      · rw [scanGroup_comma, Accepted.bind_eq_ok_iff] at h
        obtain ⟨⟨others, tokens'⟩, hothers, heq⟩ := h
        cases heq
        obtain ⟨hne, hplain, rest, later, rfl, hscan⟩ := ih hothers
        refine ⟨List.cons_ne_nil _ _, ?_, rest, later, ?_, hscan⟩
        · intro alternative hmem
          rcases List.mem_cons.1 hmem with rfl | hmem
          · simp
          · exact hplain alternative hmem
        · rw [List.intercalate_cons_of_ne_nil hne]
          rfl
      · rw [scanGroup_open] at h
        cases h
      · rw [scanGroup_close, Accepted.bind_eq_ok_iff] at h
        obtain ⟨tokens', hscan, heq⟩ := h
        cases heq
        exact ⟨List.cons_ne_nil _ _, by simp, text, _, rfl, hscan⟩
    · rw [scanGroup_plain _ _ hc, Accepted.bind_eq_ok_iff] at h
      obtain ⟨⟨others, tokens'⟩, hothers, heq⟩ := h
      cases heq
      obtain ⟨hne, hplain, rest, later, rfl, hscan⟩ := ih hothers
      obtain ⟨first, others, rfl⟩ := List.exists_cons_of_ne_nil hne
      refine ⟨List.cons_ne_nil _ _, ?_, rest, later, ?_, hscan⟩
      · intro alternative hmem
        rcases List.mem_cons.1 hmem with rfl | hmem
        · intro d hd
          rcases List.mem_cons.1 hd with rfl | hd
          · exact hc
          · exact hplain first List.mem_cons_self d hd
        · exact hplain alternative (List.mem_cons_of_mem _ hmem)
      · rw [consAlternative, List.intercalate_cons_cons_left]
        rfl

theorem add_size_cons (position : Nat) (c : Char) (text : List Char) :
    position + c.utf8Size + (String.ofList text).utf8ByteSize =
      position + (String.ofList (c :: text)).utf8ByteSize := by
  rw [String.ofList_cons, String.utf8ByteSize_append, String.utf8ByteSize_singleton, Nat.add_assoc]

theorem scanGroup_cons (opened position : Nat) {c : Char} (hc : c ∉ braces) (rest : List Char) :
    scanGroup opened position (c :: rest) = do
      let (alternatives, tokens) ← scanGroup opened (position + c.utf8Size) rest
      return (if c = ',' then [] :: alternatives else consAlternative c alternatives, tokens) := by
  by_cases hcomma : c = ','
  · subst hcomma
    rw [scanGroup_comma]
    rfl
  · have hplain : c ∉ groupOperators := by
      unfold groupOperators
      unfold braces at hc
      simp_all
    rw [scanGroup_plain _ _ hplain]
    simp only [if_neg hcomma]

theorem splitOn_cons (c : Char) (body : List Char) :
    (c :: body).splitOn ',' =
      if c = ',' then [] :: body.splitOn ',' else consAlternative c (body.splitOn ',') := by
  rw [List.splitOn_cons_eq_if_modifyHead]
  obtain ⟨alternative, alternatives, halternatives⟩ :=
    List.exists_cons_of_ne_nil (List.splitOn_ne_nil ',' body)
  rw [halternatives]
  simp [consAlternative]

/-- A body is split at its commas, and the scan goes on behind the brace that closes it. -/
theorem scanGroup_closed (opened position : Nat) {body : List Char} (hbody : ∀ c ∈ body, c ∉ braces)
    (rest : List Char) :
    scanGroup opened position (body ++ '\x7d' :: rest) = do
      return (body.splitOn ',',
        ← scan (position + (String.ofList body).utf8ByteSize + 1) rest) := by
  induction body generalizing position with
  | nil =>
    rw [List.nil_append, scanGroup_close]
    rfl
  | cons c body ih =>
    rw [List.cons_append, scanGroup_cons opened position (hbody c List.mem_cons_self),
      ih (position + c.utf8Size) fun d hd => hbody d (List.mem_cons_of_mem c hd), add_size_cons,
      splitOn_cons]
    cases scan (position + (String.ofList (c :: body)).utf8ByteSize + 1) rest <;> rfl

theorem head?_body_ne {body rest : List Char} (hbody : ∀ c ∈ body, c ∉ braces)
    (h : body ≠ [] ∨ rest.head? ≠ some '\x7d') : (body ++ rest).head? ≠ some '\x7d' := by
  cases body with
  | nil => exact h.resolve_left (fun hne => hne rfl)
  | cons c body =>
    intro heq
    cases heq
    exact hbody _ List.mem_cons_self (by decide)

theorem IsGroup.splitOn_body {alternatives : List (List Char)} (h : IsGroup alternatives) :
    ([','].intercalate alternatives).splitOn ',' = alternatives := by
  apply List.splitOn_intercalate ',' _ h.ne_nil
  intro alternative hmem hcomma
  exact h.plain alternative hmem ',' hcomma (by decide)

theorem IsGroup.body_ne_nil {alternatives : List (List Char)} (h : IsGroup alternatives) :
    [','].intercalate alternatives ≠ [] := by
  intro hempty
  have hsplit := h.splitOn_body
  rw [hempty] at hsplit
  exact h.ne_empty hsplit.symm

theorem notMem_braces_intercalate {alternatives : List (List Char)}
    (hplain : ∀ alternative ∈ alternatives, ∀ c ∈ alternative, c ∉ groupOperators) :
    ∀ c ∈ [','].intercalate alternatives, c ∉ braces := by
  induction alternatives with
  | nil => simp
  | cons alternative others ih =>
    have hfirst : ∀ c ∈ alternative, c ∉ braces := by
      intro c hc hbrace
      exact hplain alternative List.mem_cons_self c hc (List.mem_cons_of_mem ',' hbrace)
    have hothers := ih fun other hother => hplain other (List.mem_cons_of_mem alternative hother)
    rcases eq_or_ne others [] with rfl | hne
    · rw [List.intercalate_singleton]
      exact hfirst
    · rw [List.intercalate_cons_of_ne_nil hne]
      intro c hc
      rcases List.mem_append.1 hc with hc | hc
      · rcases List.mem_append.1 hc with hc | hc
        · exact hfirst c hc
        · rw [List.mem_singleton.1 hc]
          decide
      · exact hothers c hc

/-- A reading that goes on with an operator does not go on with a literal. -/
theorem Reads.cons_of_operator {rest : List Char} {tokens : List Token} (h : Reads rest tokens)
    (hend : ∀ c ∈ rest.head?, c ∈ operators) (c : Char) :
    Token.cons c tokens = .literal [c] :: tokens := by
  cases h with
  | literal hne hplain _ _ =>
    obtain ⟨d, text, rfl⟩ := List.exists_cons_of_ne_nil hne
    exact absurd (hend d rfl) (hplain d List.mem_cons_self)
  | _ => rfl

theorem Reads.cons {c : Char} {rest : List Char} {tokens : List Token} (hc : c ∉ operators)
    (h : Reads rest tokens) : Reads (c :: rest) (Token.cons c tokens) := by
  by_cases hend : ∀ d ∈ rest.head?, d ∈ operators
  · rw [h.cons_of_operator hend]
    have hplain : ∀ d ∈ [c], d ∉ operators := by simpa using hc
    exact Reads.literal (List.cons_ne_nil c []) hplain hend h
  · cases h with
    | @literal text _ _ hne hplain hend' hrest =>
      have hplain' : ∀ d ∈ c :: text, d ∉ operators := by
        intro d hd
        rcases List.mem_cons.1 hd with rfl | hd
        · exact hc
        · exact hplain d hd
      exact Reads.literal (List.cons_ne_nil c text) hplain' hend' hrest
    | _ => simp [operators] at hend

/-- What stands in front is one token, or a character of one, and the scan goes on behind it. -/
theorem scan_cons_eq_ok {position : Nat} {c : Char} {text : List Char} {tokens : List Token}
    (h : scan position (c :: text) = .ok tokens) :
    ∃ later rest behind, rest.length ≤ text.length ∧ scan later rest = .ok behind ∧
      (Reads rest behind → Reads (c :: text) tokens) := by
  by_cases hc : c ∈ operators
  · simp only [operators, List.mem_cons, List.not_mem_nil, or_false] at hc
    rcases hc with rfl | rfl | rfl
    · by_cases hstar : text.head? = some '*'
      · obtain ⟨rest, rfl⟩ := List.head?_eq_some_iff.1 hstar
        by_cases hslash : rest.head? = some '/'
        · obtain ⟨rest, rfl⟩ := List.head?_eq_some_iff.1 hslash
          rw [scan_directories, Accepted.bind_eq_ok_iff] at h
          obtain ⟨behind, hscan, heq⟩ := h
          cases heq
          exact ⟨_, rest, behind, by simp only [List.length_cons]; omega, hscan, .directories⟩
        · rw [scan_doubleStar _ hslash, Accepted.bind_eq_ok_iff] at h
          obtain ⟨behind, hscan, heq⟩ := h
          cases heq
          exact ⟨_, rest, behind, Nat.le_succ _, hscan, .doubleStar hslash⟩
      · rw [scan_star _ hstar, Accepted.bind_eq_ok_iff] at h
        obtain ⟨behind, hscan, heq⟩ := h
        cases heq
        exact ⟨_, text, behind, Nat.le_refl _, hscan, .star hstar⟩
    · by_cases hclose : text.head? = some '\x7d'
      · obtain ⟨rest, rfl⟩ := List.head?_eq_some_iff.1 hclose
        rw [scan_emptyGroup] at h
        cases h
      · rw [scan_group _ hclose, Accepted.bind_eq_ok_iff] at h
        obtain ⟨⟨alternatives, behind⟩, hgroup, heq⟩ := h
        cases heq
        obtain ⟨hne, hplain, rest, later, rfl, hscan⟩ := scanGroup_eq_ok hgroup
        have hempty : alternatives ≠ [[]] := by
          rintro rfl
          exact hclose rfl
        have hlength : rest.length ≤ ([','].intercalate alternatives ++ '\x7d' :: rest).length := by
          rw [List.length_append, List.length_cons]
          omega
        exact ⟨later, rest, behind, hlength, hscan, .group ⟨hne, hempty, hplain⟩⟩
    · rw [scan_close] at h
      cases h
  · rw [scan_literal _ hc, Accepted.bind_eq_ok_iff] at h
    obtain ⟨behind, hscan, heq⟩ := h
    cases heq
    exact ⟨_, text, behind, Nat.le_refl _, hscan, fun hreads => hreads.cons hc⟩

theorem reads_of_scan {position : Nat} {text : List Char} {tokens : List Token}
    (h : scan position text = .ok tokens) : Reads text tokens := by
  induction hn : text.length using Nat.strongRecOn generalizing position text tokens with
  | _ n ih =>
    cases text with
    | nil =>
      rw [scan_nil] at h
      cases h
      exact .nil
    | cons c text =>
      obtain ⟨later, rest, behind, hlength, hscan, hreads⟩ := scan_cons_eq_ok h
      rw [List.length_cons] at hn
      exact hreads (ih rest.length (by omega) hscan rfl)

theorem Reads.scan_eq {text : List Char} {tokens : List Token} (h : Reads text tokens)
    (position : Nat) : scan position text = .ok tokens := by
  induction h generalizing position with
  | nil => exact scan_nil position
  | @literal text rest tokens hne hplain hend hrest ih =>
    -- The run is put together from its end: its last character finds no literal to join.
    induction text generalizing position with
    | nil => exact absurd rfl hne
    | cons c text ihc =>
      have hc := hplain c List.mem_cons_self
      rw [List.cons_append, scan_literal _ hc]
      rcases eq_or_ne text [] with rfl | htext
      · rw [List.nil_append, ih]
        exact congrArg Except.ok (hrest.cons_of_operator hend c)
      · rw [ihc htext fun d hd => hplain d (List.mem_cons_of_mem c hd)]
        rfl
  | star hend _ ih =>
    rw [scan_star _ hend, ih]
    rfl
  | doubleStar hend _ ih =>
    rw [scan_doubleStar _ hend, ih]
    rfl
  | directories _ ih =>
    rw [scan_directories, ih]
    rfl
  | group hgroup _ ih =>
    have hbody := notMem_braces_intercalate hgroup.plain
    rw [scan_group _ (head?_body_ne hbody (.inl hgroup.body_ne_nil)), scanGroup_closed _ _ hbody,
      hgroup.splitOn_body, ih]
    rfl

/-- A glob is scanned to the tokens it reads as, whatever offset its first character has. -/
theorem scan_eq_ok_iff (position : Nat) (text : List Char) (tokens : List Token) :
    scan position text = .ok tokens ↔ Reads text tokens :=
  ⟨reads_of_scan, fun h => h.scan_eq position⟩

theorem Reads.unique {text : List Char} {tokens others : List Token} (h : Reads text tokens)
    (hothers : Reads text others) : tokens = others :=
  Except.ok.inj ((h.scan_eq 0).symm.trans (hothers.scan_eq 0))

def written (tokens : List Token) : List Char :=
  tokens.flatMap Token.text

theorem written_cons (token : Token) (tokens : List Token) :
    written (token :: tokens) = token.text ++ written tokens :=
  List.flatMap_cons

theorem written_append (first second : List Token) :
    written (first ++ second) = written first ++ written second :=
  List.flatMap_append

theorem text_group_append (alternatives : List (List Char)) (rest : List Char) :
    (Token.group alternatives).text ++ rest =
      '\x7b' :: ([','].intercalate alternatives ++ '\x7d' :: rest) := by
  simp [Token.text]

/-- A reading loses nothing. -/
theorem Reads.written_eq {text : List Char} {tokens : List Token} (h : Reads text tokens) :
    written tokens = text := by
  induction h with
  | nil => rfl
  | literal _ _ _ _ ih => rw [written_cons, ih, Token.text]
  | star _ _ ih | doubleStar _ _ ih | directories _ ih =>
    rw [written_cons, ih]
    rfl
  | group _ _ ih => rw [written_cons, ih, text_group_append]

theorem compile_eq_ok_iff {text : String} {glob : Glob} :
    compile text = .ok glob ↔ ∃ tokens, Reads text.toList tokens ∧
      Expression.weight (tokens.map Token.part) ≤ Expression.sizeLimit ∧
      glob = { text, expression := tokens.map Token.part } := by
  rw [compile, Accepted.bind_eq_ok_iff]
  simp only [Accepted.mapError_eq_ok_iff, scan_eq_ok_iff]
  refine exists_congr fun tokens => and_congr_right fun _ => ?_
  by_cases h : Expression.sizeLimit < Expression.weight (tokens.map Token.part)
  · rw [if_pos h, Accepted.bind_eq_ok_iff]
    constructor
    · rintro ⟨_, hthrow, -⟩
      cases hthrow
    · rintro ⟨hle, -⟩
      omega
  · rw [if_neg h, and_iff_right (Nat.not_lt.1 h), Accepted.pure_eq_ok_iff, eq_comm]

theorem text_of_compile {text : String} {glob : Glob} (h : compile text = .ok glob) :
    glob.text = text := by
  obtain ⟨tokens, -, -, rfl⟩ := compile_eq_ok_iff.1 h
  rfl

end EdgeRouting.Glob
