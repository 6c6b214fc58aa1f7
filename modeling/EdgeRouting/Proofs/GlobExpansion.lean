import EdgeRouting.Proofs.GlobAcceptance

/-!
# Groups as sets of globs

Where no star stands at the joint, a glob that is put together from two texts matches what is put
together from the matches of the two. So a group in a glob stands for the globs with one of its
alternatives in its place, however these are read: an alternative may join the literals around it,
or join nothing to them.
-/

namespace EdgeRouting.Glob

def Covers (tokens : List Token) (path : List Char) : Prop :=
  ∃ pieces, Cuts tokens path pieces

def weight (tokens : List Token) : Nat :=
  Expression.weight (tokens.map Token.part)

variable {c : Char} {text before after rest path : List Char} {token : Token}
  {tokens first second both : List Token}

theorem covers_nil : Covers [] path ↔ path = [] := by
  unfold Covers Cuts CutsAlong
  simp only [List.forall₂_nil_left_iff]
  constructor
  · rintro ⟨pieces, hpath, rfl⟩
    exact hpath.symm
  · rintro rfl
    exact ⟨[], rfl, rfl⟩

theorem covers_cons :
    Covers (token :: tokens) path ↔ ∃ piece rest,
      path = piece ++ rest ∧ token.Admits piece ∧ Covers tokens rest := by
  unfold Covers Cuts CutsAlong
  simp only [List.forall₂_cons_left_iff]
  constructor
  · rintro ⟨_, hpath, piece, pieces, hpiece, hpieces, rfl⟩
    exact ⟨piece, pieces.flatten, hpath.symm, hpiece, pieces, rfl, hpieces⟩
  · rintro ⟨piece, rest, rfl, hpiece, pieces, rfl, hpieces⟩
    exact ⟨piece :: pieces, rfl, piece, pieces, hpiece, hpieces, rfl⟩

/-- A literal character in front is matched by itself, whether it joins a literal or makes one. -/
theorem covers_tokenCons :
    Covers (Token.cons c tokens) path ↔ ∃ rest, path = c :: rest ∧ Covers tokens rest := by
  unfold Token.cons
  split
  · simp only [covers_cons, Token.Admits]
    constructor
    · rintro ⟨piece, rest, rfl, rfl, hrest⟩
      exact ⟨_, rfl, _, rest, rfl, rfl, hrest⟩
    · rintro ⟨_, rfl, piece, rest, rfl, rfl, hrest⟩
      exact ⟨_, rest, rfl, rfl, hrest⟩
  · simp only [covers_cons, Token.Admits]
    constructor
    · rintro ⟨piece, rest, rfl, rfl, hrest⟩
      exact ⟨rest, rfl, hrest⟩
    · rintro ⟨rest, rfl, hrest⟩
      exact ⟨[c], rest, rfl, rfl, hrest⟩

theorem weight_cons : weight (token :: tokens) = token.part.weight + weight tokens := rfl

theorem weight_tokenCons : weight (Token.cons c tokens) = 32 * c.utf8Size + weight tokens := by
  unfold Token.cons
  split
  · rw [weight_cons, weight_cons]
    simp only [Token.part, Part.weight, String.ofList_cons, String.utf8ByteSize_append,
      String.utf8ByteSize_singleton]
    omega
  · rw [weight_cons]
    simp only [Token.part, Part.weight, String.ofList_cons, String.utf8ByteSize_append,
      String.utf8ByteSize_singleton]
    rfl

/-- Tokens that match what the first and then the second tokens match, and weigh as much as both. -/
structure IsConcatenation (first second both : List Token) : Prop where
  covers : ∀ path, Covers both path ↔ ∃ front back,
    path = front ++ back ∧ Covers first front ∧ Covers second back
  weight : weight both = weight first + weight second

theorem IsConcatenation.nil (second : List Token) : IsConcatenation [] second second := by
  refine ⟨fun path => ?_, (Nat.zero_add _).symm⟩
  simp only [covers_nil]
  constructor
  · intro h
    exact ⟨[], path, rfl, rfl, h⟩
  · rintro ⟨_, _, rfl, rfl, h⟩
    exact h

theorem IsConcatenation.cons (h : IsConcatenation first second both) (token : Token) :
    IsConcatenation (token :: first) second (token :: both) := by
  refine ⟨fun path => ?_, ?_⟩
  · simp only [covers_cons, h.covers]
    constructor
    · rintro ⟨piece, _, rfl, hpiece, front, back, rfl, hfront, hback⟩
      exact ⟨piece ++ front, back, by rw [List.append_assoc],
        ⟨piece, front, rfl, hpiece, hfront⟩, hback⟩
    · rintro ⟨_, back, rfl, ⟨piece, front, rfl, hpiece, hfront⟩, hback⟩
      exact ⟨piece, front ++ back, by rw [List.append_assoc], hpiece, front, back, rfl,
        hfront, hback⟩
  · rw [weight_cons, weight_cons, h.weight, Nat.add_assoc]

theorem IsConcatenation.tokenCons (h : IsConcatenation first second both) (c : Char) :
    IsConcatenation (Token.cons c first) second (Token.cons c both) := by
  refine ⟨fun path => ?_, ?_⟩
  · simp only [covers_tokenCons, h.covers]
    constructor
    · rintro ⟨_, rfl, front, back, rfl, hfront, hback⟩
      exact ⟨c :: front, back, rfl, ⟨front, rfl, hfront⟩, hback⟩
    · rintro ⟨_, back, rfl, ⟨front, rfl, hfront⟩, hback⟩
      exact ⟨front ++ back, rfl, front, back, rfl, hfront, hback⟩
  · rw [weight_tokenCons, weight_tokenCons, h.weight, Nat.add_assoc]

theorem Reads.foldr_cons (h : Reads rest tokens) (htext : ∀ c ∈ text, c ∉ operators) :
    Reads (text ++ rest) (text.foldr Token.cons tokens) := by
  induction text with
  | nil => exact h
  | cons c text ih =>
    have hrest := ih fun d hd => htext d (List.mem_cons_of_mem c hd)
    exact hrest.cons (htext c List.mem_cons_self)

theorem Reads.foldr_cons_eq (h : Reads rest tokens) (hend : ∀ c ∈ rest.head?, c ∈ operators)
    (htext : text ≠ []) : text.foldr Token.cons tokens = .literal text :: tokens := by
  induction text with
  | nil => exact absurd rfl htext
  | cons c text ih =>
    rw [List.foldr_cons]
    rcases eq_or_ne text [] with rfl | hne
    · exact h.cons_of_operator hend c
    · rw [ih hne]
      rfl

theorem IsConcatenation.foldr_cons (h : IsConcatenation first second both) (text : List Char) :
    IsConcatenation (text.foldr Token.cons first) second (text.foldr Token.cons both) := by
  induction text with
  | nil => exact h
  | cons c text ih => exact ih.tokenCons c

theorem getLast?_ne_of_append (text : List Char) (h : (text ++ rest).getLast? ≠ some c) :
    rest.getLast? ≠ some c := by
  intro hlast
  apply h
  rw [List.getLast?_append, hlast]
  rfl

/-- A text that does not end in a star does not end behind one. -/
theorem head?_append_of_getLast? {d : Char} (h : (d :: rest).getLast? ≠ some d)
    (after : List Char) : (rest ++ after).head? = rest.head? := by
  cases rest with
  | nil => exact absurd rfl h
  | cons e rest => rfl

/-- Where no star stands at the joint, two readings make one reading. The literals at the joint
become one literal. -/
theorem Reads.exists_append (h : Reads before first) (hafter : Reads after second)
    (hjoint : before.getLast? ≠ some '*') :
    ∃ both, Reads (before ++ after) both ∧ IsConcatenation first second both := by
  induction h with
  | nil => exact ⟨second, hafter, .nil second⟩
  | @literal text rest tokens hne hplain hend hrest ih =>
    obtain ⟨both, hboth, hconcat⟩ := ih (getLast?_ne_of_append text hjoint)
    refine ⟨text.foldr Token.cons both, ?_, ?_⟩
    · rw [List.append_assoc]
      exact hboth.foldr_cons hplain
    · rw [← hrest.foldr_cons_eq hend hne]
      exact hconcat.foldr_cons text
  | @star rest tokens hend hrest ih =>
    obtain ⟨both, hboth, hconcat⟩ := ih (getLast?_ne_of_append ['*'] hjoint)
    have hend' : (rest ++ after).head? ≠ some '*' := by
      rw [head?_append_of_getLast? hjoint]
      exact hend
    exact ⟨.star :: both, .star hend' hboth, hconcat.cons .star⟩
  | @doubleStar rest tokens hend hrest ih =>
    have hjoint' := getLast?_ne_of_append ['*'] hjoint
    obtain ⟨both, hboth, hconcat⟩ := ih (getLast?_ne_of_append ['*'] hjoint')
    have hend' : (rest ++ after).head? ≠ some '/' := by
      rw [head?_append_of_getLast? hjoint']
      exact hend
    exact ⟨.doubleStar :: both, .doubleStar hend' hboth, hconcat.cons .doubleStar⟩
  | @directories rest tokens hrest ih =>
    obtain ⟨both, hboth, hconcat⟩ := ih (getLast?_ne_of_append ['*', '*', '/'] hjoint)
    exact ⟨.directories :: both, .directories hboth, hconcat.cons .directories⟩
  | @group alternatives rest tokens hgroup hrest ih =>
    have hrest' : rest.getLast? ≠ some '*' := by
      apply getLast?_ne_of_append ('\x7b' :: [','].intercalate alternatives ++ ['\x7d'])
      simpa using hjoint
    obtain ⟨both, hboth, hconcat⟩ := ih hrest'
    refine ⟨.group alternatives :: both, ?_, hconcat.cons (.group alternatives)⟩
    rw [List.cons_append, List.append_assoc, List.cons_append]
    exact .group hgroup hboth

theorem covers_foldr_cons :
    Covers (text.foldr Token.cons tokens) path ↔
      ∃ rest, path = text ++ rest ∧ Covers tokens rest := by
  induction text generalizing path with
  | nil => simp
  | cons c text ih =>
    rw [List.foldr_cons, covers_tokenCons]
    simp only [ih]
    constructor
    · rintro ⟨_, rfl, rest, rfl, hrest⟩
      exact ⟨rest, rfl, hrest⟩
    · rintro ⟨rest, rfl, hrest⟩
      exact ⟨text ++ rest, rfl, rest, rfl, hrest⟩

theorem weight_foldr_cons :
    weight (text.foldr Token.cons tokens) = 32 * (String.ofList text).utf8ByteSize +
      weight tokens := by
  induction text with
  | nil => exact (Nat.zero_add _).symm
  | cons c text ih =>
    rw [List.foldr_cons, weight_tokenCons, ih, String.ofList_cons, String.utf8ByteSize_append,
      String.utf8ByteSize_singleton]
    omega

theorem weight_le_oneOf {alternatives : List (List Char)} {alternative : List Char}
    (h : alternative ∈ alternatives) :
    32 * (String.ofList alternative).utf8ByteSize ≤ (Part.oneOf alternatives).weight := by
  induction alternatives with
  | nil => cases h
  | cons first others ih =>
    simp only [Part.weight, List.foldr_cons] at ih ⊢
    rcases List.mem_cons.1 h with rfl | h
    · omega
    · have hother := ih h
      omega

variable {bodies later : List (List Char)} {fault : Fault}

theorem Grouped.append (h : Grouped before bodies) (hafter : Grouped after later) :
    Grouped (before ++ after) (bodies ++ later) := by
  induction h with
  | nil => exact hafter
  | plain hc _ ih => exact ih.plain hc
  | group hne hbody _ ih =>
    rw [List.cons_append, List.append_assoc, List.cons_append]
    exact ih.group hne hbody

theorem IsLeftmostFault.not_grouped (h : IsLeftmostFault text fault) : ¬ Grouped text bodies := by
  intro hgrouped
  obtain ⟨tokens, hreads, -⟩ := hgrouped.exists_reads
  have hscan := hreads.scan_eq 0
  rw [h.scan_eq] at hscan
  cases hscan

/-- What is wrong with a text stays wrong in front of an opening brace, though it may get another
name. -/
theorem Faulty.append_open {position : Nat} (h : Faulty position text fault) (rest : List Char) :
    ∃ fault, Faulty position (text ++ '\x7b' :: rest) fault := by
  cases h with
  | stray text => exact ⟨_, .stray (text ++ '\x7b' :: rest)⟩
  | empty text => exact ⟨_, .empty (text ++ '\x7b' :: rest)⟩
  | @nested body hbody text =>
    rw [List.cons_append, List.append_assoc, List.cons_append]
    exact ⟨_, .nested hbody (text ++ '\x7b' :: rest)⟩
  | unclosed hbody => exact ⟨_, .nested hbody rest⟩

/-- A brace that opens a group of a grouped text stands behind a grouped text. -/
theorem Grouped.before_open (h : Grouped (before ++ '\x7b' :: rest) bodies) :
    ∃ bodies, Grouped before bodies := by
  obtain ⟨front, fronts, back, rfl, hfront, rfl | hfaulty⟩ := exists_grouped_before before
  · rw [List.append_nil]
    exact ⟨fronts, hfront⟩
  · obtain ⟨fault, hfault⟩ := hfaulty (String.ofList front).utf8ByteSize
    obtain ⟨fault, hfault⟩ := hfault.append_open rest
    rw [List.append_assoc] at h
    exact absurd h (IsLeftmostFault.not_grouped ⟨front, fronts, _, rfl, hfront, hfault⟩)

theorem Grouped.behind (h : Grouped (before ++ after) bodies) (hbefore : Grouped before later) :
    ∃ bodies, Grouped after bodies := by
  obtain ⟨front, fronts, back, rfl, hfront, rfl | hfaulty⟩ := exists_grouped_before after
  · rw [List.append_nil]
    exact ⟨fronts, hfront⟩
  · obtain ⟨fault, hfault⟩ := hfaulty (String.ofList (before ++ front)).utf8ByteSize
    rw [← List.append_assoc] at h
    exact absurd h
      (IsLeftmostFault.not_grouped ⟨before ++ front, _, _, rfl, hbefore.append hfront, hfault⟩)

/-- The texts before and behind a group are globs of their own, and the group is not empty. -/
theorem Grouped.exists_reads_around {body : List Char} (hbody : ∀ c ∈ body, c ∉ braces)
    (h : Grouped (before ++ '\x7b' :: (body ++ '\x7d' :: after)) bodies) :
    body ≠ [] ∧ ∃ first second, Reads before first ∧ Reads after second := by
  obtain ⟨fronts, hbefore⟩ := h.before_open
  have hne : body ≠ [] := by
    rintro rfl
    exact IsLeftmostFault.not_grouped ⟨before, fronts, _, rfl, hbefore, .empty after⟩ h
  have hgroup : Grouped (before ++ '\x7b' :: (body ++ ['\x7d'])) (fronts ++ [body]) :=
    hbefore.append (.group hne hbody .nil)
  have htext : before ++ '\x7b' :: (body ++ '\x7d' :: after) =
      (before ++ '\x7b' :: (body ++ ['\x7d'])) ++ after := by
    simp
  rw [htext] at h
  obtain ⟨backs, hafter⟩ := h.behind hgroup
  obtain ⟨first, hfirst, -⟩ := hbefore.exists_reads
  obtain ⟨second, hsecond, -⟩ := hafter.exists_reads
  exact ⟨hne, first, second, hfirst, hsecond⟩

variable {alternative : List Char} {alternatives : List (List Char)}

/-- A character of an alternative reads as itself outside of a group too, unless it is a star. -/
theorem notMem_operators (h : c ∉ groupOperators ∧ c ≠ '*') : c ∉ operators := by
  intro hoperator
  rcases List.mem_cons.1 hoperator with heq | hbrace
  · exact h.2 heq
  · exact h.1 (List.mem_cons_of_mem ',' hbrace)

theorem Reads.exists_alternative_between (hfirst : Reads before first)
    (hsecond : Reads after second) (hjoint : before.getLast? ≠ some '*')
    (hplain : ∀ c ∈ alternative, c ∉ operators) :
    ∃ tokens, Reads (before ++ (alternative ++ after)) tokens ∧
      weight tokens =
        weight first + (32 * (String.ofList alternative).utf8ByteSize + weight second) ∧
      ∀ path, Covers tokens path ↔
        ∃ front back, path = front ++ (alternative ++ back) ∧ Covers first front ∧
        Covers second back := by
  obtain ⟨tokens, htokens, hconcat⟩ := hfirst.exists_append (hsecond.foldr_cons hplain) hjoint
  refine ⟨tokens, htokens, ?_, fun path => ?_⟩
  · rw [hconcat.weight, weight_foldr_cons]
  · rw [hconcat.covers]
    simp only [covers_foldr_cons]
    constructor
    · rintro ⟨front, _, rfl, hfront, back, rfl, hback⟩
      exact ⟨front, back, rfl, hfront, hback⟩
    · rintro ⟨front, back, rfl, hfront, hback⟩
      exact ⟨front, alternative ++ back, rfl, hfront, back, rfl, hback⟩

theorem Reads.exists_group_between (hfirst : Reads before first) (hsecond : Reads after second)
    (hjoint : before.getLast? ≠ some '*') (hgroup : IsGroup alternatives) :
    ∃ tokens,
      Reads (before ++ '\x7b' :: ([','].intercalate alternatives ++ '\x7d' :: after)) tokens ∧
      weight tokens = weight first + ((Part.oneOf alternatives).weight + weight second) ∧
      ∀ path, Covers tokens path ↔ ∃ alternative ∈ alternatives,
        ∃ front back, path = front ++ (alternative ++ back) ∧ Covers first front ∧
        Covers second back := by
  obtain ⟨tokens, htokens, hconcat⟩ := hfirst.exists_append (.group hgroup hsecond) hjoint
  refine ⟨tokens, htokens, hconcat.weight, fun path => ?_⟩
  rw [hconcat.covers]
  simp only [covers_cons, Token.Admits]
  constructor
  · rintro ⟨front, _, rfl, hfront, alternative, back, rfl, hmem, hback⟩
    exact ⟨alternative, hmem, front, back, rfl, hfront, hback⟩
  · rintro ⟨alternative, hmem, front, back, rfl, hfront, hback⟩
    exact ⟨front, alternative ++ back, rfl, hfront, alternative, back, rfl, hmem, hback⟩

/-- A group between two texts is covered where one of its alternatives in its place is. None of
these weighs more. -/
theorem Grouped.exists_expansions
    (h : Grouped (before ++ '\x7b' :: ([','].intercalate alternatives ++ '\x7d' :: after)) bodies)
    (hplain : ∀ alternative ∈ alternatives, ∀ c ∈ alternative, c ∉ groupOperators ∧ c ≠ '*')
    (hjoint : before.getLast? ≠ some '*') :
    ∃ tokens,
      Reads (before ++ '\x7b' :: ([','].intercalate alternatives ++ '\x7d' :: after)) tokens ∧
      (∀ alternative ∈ alternatives, ∃ expanded, Reads (before ++ (alternative ++ after)) expanded ∧
        weight expanded ≤ weight tokens) ∧
      ∀ path, Covers tokens path ↔ ∃ alternative ∈ alternatives, ∃ expanded,
        Reads (before ++ (alternative ++ after)) expanded ∧ Covers expanded path := by
  have hnames : ∀ alternative ∈ alternatives, ∀ c ∈ alternative, c ∉ groupOperators :=
    fun alternative hmem c hc => (hplain alternative hmem c hc).1
  obtain ⟨hne, first, second, hfirst, hsecond⟩ :=
    h.exists_reads_around (notMem_braces_intercalate hnames)
  have hgroup : IsGroup alternatives := by
    refine ⟨?_, ?_, hnames⟩
    · rintro rfl
      exact hne rfl
    · rintro rfl
      exact hne rfl
  obtain ⟨tokens, htokens, hweight, hcovers⟩ := hfirst.exists_group_between hsecond hjoint hgroup
  have hplaced := fun alternative hmem =>
    hfirst.exists_alternative_between hsecond hjoint
      fun c hc => notMem_operators (hplain alternative hmem c hc)
  refine ⟨tokens, htokens, ?_, fun path => (hcovers path).trans ?_⟩
  · intro alternative hmem
    obtain ⟨expanded, hexpanded, hweight', -⟩ := hplaced alternative hmem
    have hle := weight_le_oneOf hmem
    exact ⟨expanded, hexpanded, by omega⟩
  · apply exists_congr
    intro alternative
    apply and_congr_right
    intro hmem
    obtain ⟨expanded, hexpanded, -, hcovers'⟩ := hplaced alternative hmem
    rw [← hcovers']
    constructor
    · intro hcovered
      exact ⟨expanded, hexpanded, hcovered⟩
    · rintro ⟨others, hothers, hcovered⟩
      obtain rfl := hothers.unique hexpanded
      exact hcovered

theorem exists_grouped_of_accepted {text : String}
    (h : (∃ glob, compile text = .ok glob) ∨
      compile text = .error (.expressionTooLarge Expression.sizeLimit)) :
    ∃ bodies, Grouped text.toList bodies := by
  apply (grouped_or_faulty text.toList).resolve_right
  rintro ⟨fault, hfault⟩
  rw [hfault.compile_eq] at h
  rcases h with ⟨glob, heq⟩ | heq
  · cases heq
  · exact fault.compileError_ne text _ (Except.error.inj heq)

theorem isMatch_iff_covers {text : String} {glob : Glob} (h : compile text = .ok glob)
    (hreads : Reads text.toList tokens) (path : String) :
    glob.isMatch path = true ↔ Covers tokens path.toList := by
  obtain ⟨others, hothers, -, rfl⟩ := compile_eq_ok_iff.1 h
  obtain rfl := hothers.unique hreads
  simp only [isMatch, Expression.isMatch_iff, Expression.cuts_map_iff, Token.admits_part]
  rfl

def expansion (before alternative after : List Char) : String :=
  String.ofList (before ++ (alternative ++ after))

@[simp]
theorem toList_expansion (before alternative after : List Char) :
    (expansion before alternative after).toList = before ++ (alternative ++ after) :=
  String.toList_ofList

/-- A group in an accepted glob stands for its alternatives: each of the globs with one of them in
its place is accepted, is not too large if the glob itself is not, and the glob matches what any of
these globs matches. -/
theorem matches_any_expansion {text : String} {before after : List Char}
    {alternatives : List (List Char)}
    (htext : text.toList = before ++ '\x7b' :: ([','].intercalate alternatives ++ '\x7d' :: after))
    (hplain : ∀ alternative ∈ alternatives, ∀ c ∈ alternative, c ∉ groupOperators ∧ c ≠ '*')
    (hbefore : before.getLast? ≠ some '*') (haccepted : (∃ glob, compile text = .ok glob) ∨
      compile text = .error (.expressionTooLarge Expression.sizeLimit)) :
    (∀ alternative ∈ alternatives,
      (∃ expanded, compile (expansion before alternative after) = .ok expanded) ∨
      compile (expansion before alternative after) =
        .error (.expressionTooLarge Expression.sizeLimit)) ∧
    ∀ glob, compile text = .ok glob →
      (∀ alternative ∈ alternatives, ∃ expanded,
        compile (expansion before alternative after) = .ok expanded) ∧
      ∀ path : String, glob.isMatch path = true ↔ ∃ alternative ∈ alternatives, ∃ expanded,
        compile (expansion before alternative after) = .ok expanded ∧
        expanded.isMatch path = true := by
  obtain ⟨bodies, hgrouped⟩ := exists_grouped_of_accepted haccepted
  rw [htext] at hgrouped
  obtain ⟨tokens, htokens, hexpansions, hcovers⟩ := hgrouped.exists_expansions hplain hbefore
  rw [← htext] at htokens
  simp only [← toList_expansion] at hexpansions hcovers
  constructor
  · intro alternative hmem
    obtain ⟨tokens', htokens', -⟩ := hexpansions alternative hmem
    rw [htokens'.compile_eq]
    split
    · exact .inr rfl
    · exact .inl ⟨_, rfl⟩
  · intro glob hglob
    obtain ⟨others, hothers, hsize, -⟩ := compile_eq_ok_iff.1 hglob
    obtain rfl := hothers.unique htokens
    have hcompile : ∀ alternative ∈ alternatives, ∃ expanded,
        compile (expansion before alternative after) = .ok expanded := by
      intro alternative hmem
      obtain ⟨tokens', htokens', hle⟩ := hexpansions alternative hmem
      exact ⟨_, compile_eq_ok_iff.2 ⟨tokens', htokens', hle.trans hsize, rfl⟩⟩
    refine ⟨hcompile, fun path => ?_⟩
    rw [isMatch_iff_covers hglob hothers, hcovers]
    constructor
    · rintro ⟨alternative, hmem, tokens', htokens', hcovered⟩
      obtain ⟨expanded, hexpanded⟩ := hcompile alternative hmem
      exact ⟨alternative, hmem, expanded, hexpanded,
        (isMatch_iff_covers hexpanded htokens' path).2 hcovered⟩
    · rintro ⟨alternative, hmem, expanded, hexpanded, hpath⟩
      obtain ⟨tokens', htokens', -⟩ := hexpansions alternative hmem
      exact ⟨alternative, hmem, tokens', htokens',
        (isMatch_iff_covers hexpanded htokens' path).1 hpath⟩

/-- An empty alternative joins the literals before and behind the group, and a plus sign stands for
itself in either. -/
theorem matches_expanded_script : ∃ glob expanded,
    compile "/*.\x7bjs,,a+\x7d/**" = .ok glob ∧ compile "/*./**" = .ok expanded ∧
    expanded.isMatch "/x./y" = true ∧ glob.isMatch "/x./y" = true ∧
    glob.isMatch "/x.a+/y" = true ∧ glob.isMatch "/x.aa/y" = false ∧
    ∃ alternative ∈ [['j', 's'], [], ['a', '+']], ∃ expanded,
      compile (expansion ['/', '*', '.'] alternative ['/', '*', '*']) = .ok expanded ∧
      expanded.isMatch "/x.a+/y" = true := by
  have hglob : compile "/*.\x7bjs,,a+\x7d/**" = .ok {
      text := "/*.\x7bjs,,a+\x7d/**"
      expression :=
        [.literal ['/'], .withinSegment, .literal ['.'], .oneOf [['j', 's'], [], ['a', '+']],
          .literal ['/'], .withinLine] } := by
    decide +kernel
  have hexpanded : compile "/*./**" = .ok {
      text := "/*./**"
      expression := [.literal ['/'], .withinSegment, .literal ['.', '/'], .withinLine] } := by
    decide +kernel
  obtain ⟨-, hunion⟩ :=
    @matches_any_expansion "/*.\x7bjs,,a+\x7d/**" ['/', '*', '.'] ['/', '*', '*']
    [['j', 's'], [], ['a', '+']] rfl (by simp [groupOperators]) (by decide) (.inl ⟨_, hglob⟩)
  obtain ⟨-, hmatch⟩ := hunion _ hglob
  have hjoined := (hmatch "/x./y").2 ⟨[], by decide, _, hexpanded, by decide +kernel⟩
  have hplus := (hmatch "/x.a+/y").1 (by decide +kernel)
  exact ⟨_, _, hglob, hexpanded, by decide +kernel, hjoined, by decide +kernel,
    by decide +kernel, hplus⟩

end EdgeRouting.Glob
