import EdgeRouting.Proofs.GlobMeaning

/-!
# Which globs are accepted

A glob is refused for its braces alone. `Grouped` says that all of them are parts of groups,
`Faulty` says what is wrong with a text at its first brace, and every text is either grouped or
grouped up to a leftmost fault.
-/

namespace EdgeRouting.Glob

/-- Every opening brace is closed by a later brace with something but no brace between them, and
nothing else is closed. What stands between the braces of each group is its body. -/
inductive Grouped : List Char → List (List Char) → Prop
  | nil : Grouped [] []
  | plain {c : Char} {rest : List Char} {bodies : List (List Char)} (hc : c ∉ braces)
      (hrest : Grouped rest bodies) :
      Grouped (c :: rest) bodies
  | group {body rest : List Char} {bodies : List (List Char)} (hne : body ≠ [])
      (hbody : ∀ c ∈ body, c ∉ braces) (hrest : Grouped rest bodies) :
      Grouped ('\x7b' :: (body ++ '\x7d' :: rest)) (body :: bodies)

/-- A text that begins with a stray closing brace or with a faulty group. The first brace behind an
opening one decides. -/
inductive Faulty (position : Nat) : List Char → Fault → Prop
  | stray (rest : List Char) : Faulty position ('\x7d' :: rest) (.unbalancedBrace position)
  | empty (rest : List Char) :
      Faulty position ('\x7b' :: '\x7d' :: rest) (.invalidAlternation position)
  | nested {body : List Char} (hbody : ∀ c ∈ body, c ∉ braces) (rest : List Char) :
      Faulty position ('\x7b' :: (body ++ '\x7b' :: rest))
        (.invalidAlternation (position + (String.ofList ('\x7b' :: body)).utf8ByteSize))
  | unclosed {body : List Char} (hbody : ∀ c ∈ body, c ∉ braces) :
      Faulty position ('\x7b' :: body) (.unbalancedBrace position)

/-- The fault of the leftmost stray brace or faulty group: all that stands before it is grouped. -/
def IsLeftmostFault (text : List Char) (fault : Fault) : Prop :=
  ∃ before bodies rest, text = before ++ rest ∧ Grouped before bodies ∧
    Faulty (String.ofList before).utf8ByteSize rest fault

def Token.alternatives? : Token → Option (List (List Char))
  | .group alternatives => some alternatives
  | _ => none

def groups (tokens : List Token) : List (List (List Char)) :=
  tokens.filterMap Token.alternatives?

variable {c : Char} {text rest body : List Char} {bodies : List (List Char)} {fault : Fault}

theorem groups_cons (c : Char) (tokens : List Token) :
    groups (Token.cons c tokens) = groups tokens := by
  unfold Token.cons
  split <;> rfl

theorem map_groups_cons {result : Except Fault (List Token)} {token : Token}
    (htoken : token.alternatives? = none) :
    (do return token :: (← result) : Except Fault (List Token)).map groups = result.map groups := by
  cases result with
  | error fault => rfl
  | ok tokens => exact congrArg Except.ok (List.filterMap_cons_none htoken)

/-- A character other than a brace neither makes nor spoils a group, whether it is literal or part
of a star. -/
theorem map_groups_scan (position : Nat) (hc : c ∉ braces) :
    (scan position (c :: rest)).map groups = (scan (position + c.utf8Size) rest).map groups := by
  induction hn : rest.length using Nat.strongRecOn generalizing position c rest with
  | _ n ih =>
    by_cases hstar : c = '*'
    · subst hstar
      -- A longer star is told from a shorter one by what follows, so its characters are passed one
      -- by one.
      by_cases hsecond : rest.head? = some '*'
      · obtain ⟨rest, rfl⟩ := List.head?_eq_some_iff.1 hsecond
        rw [List.length_cons] at hn
        have hpass := ih rest.length (by omega) (position + '*'.utf8Size) hc rfl
        rw [hpass]
        by_cases hslash : rest.head? = some '/'
        · obtain ⟨rest, rfl⟩ := List.head?_eq_some_iff.1 hslash
          rw [List.length_cons] at hn
          rw [scan_directories, map_groups_cons rfl, ih rest.length (by omega) _ (by decide) rfl]
          rfl
        · rw [scan_doubleStar _ hslash, map_groups_cons rfl]
          rfl
      · rw [scan_star _ hsecond, map_groups_cons rfl]
        rfl
    · have hliteral : c ∉ operators := by
        unfold operators
        unfold braces at hc
        simp_all
      rw [scan_literal _ hliteral]
      cases scan (position + c.utf8Size) rest with
      | error fault => rfl
      | ok tokens => exact congrArg Except.ok (groups_cons c tokens)

theorem scanGroup_append_eq_error (opened position : Nat) (hbody : ∀ c ∈ body, c ∉ braces)
    (h : scanGroup opened (position + (String.ofList body).utf8ByteSize) rest = .error fault) :
    scanGroup opened position (body ++ rest) = .error fault := by
  induction body generalizing position with
  | nil => exact h
  | cons c body ih =>
    rw [← add_size_cons] at h
    rw [List.cons_append, scanGroup_cons opened position (hbody c List.mem_cons_self),
      ih (position + c.utf8Size) (fun d hd => hbody d (List.mem_cons_of_mem c hd)) h]
    rfl

/-- The groups of a grouped text are its bodies, split at their commas, and a fault can only lie
behind it. -/
theorem Grouped.map_groups_scan (h : Grouped text bodies) (position : Nat) (rest : List Char) :
    (scan position (text ++ rest)).map groups =
      (scan (position + (String.ofList text).utf8ByteSize) rest).map (fun tokens =>
        bodies.map (·.splitOn ',') ++ groups tokens) := by
  induction h generalizing position with
  | nil => rfl
  | plain hc _ ih => rw [List.cons_append, Glob.map_groups_scan position hc, ih, add_size_cons]
  | @group body text bodies hne hbody _ ih =>
    have hsize : position + 1 + (String.ofList body).utf8ByteSize + 1 +
        (String.ofList text).utf8ByteSize =
        position + (String.ofList ('\x7b' :: (body ++ '\x7d' :: text))).utf8ByteSize := by
      simp only [String.ofList_cons, String.ofList_append, String.utf8ByteSize_append,
        String.utf8ByteSize_singleton]
      have hopen : Char.utf8Size '\x7b' = 1 := rfl
      have hclose : Char.utf8Size '\x7d' = 1 := rfl
      omega
    have hgroup : (scan position ('\x7b' :: (body ++ '\x7d' :: (text ++ rest)))).map groups =
        ((scan (position + 1 + (String.ofList body).utf8ByteSize + 1) (text ++ rest)).map
          groups).map (body.splitOn ',' :: ·) := by
      rw [scan_group _ (head?_body_ne hbody (.inl hne)), scanGroup_closed _ _ hbody]
      cases scan (position + 1 + (String.ofList body).utf8ByteSize + 1) (text ++ rest) <;> rfl
    rw [List.cons_append, List.append_assoc, List.cons_append, hgroup, ih, hsize]
    cases scan (position + (String.ofList ('\x7b' :: (body ++ '\x7d' :: text))).utf8ByteSize) rest
    all_goals rfl

theorem Faulty.scan_eq {position : Nat} (h : Faulty position text fault) :
    scan position text = .error fault := by
  cases h with
  | stray rest => exact scan_close position rest
  | empty rest => exact scan_emptyGroup position rest
  | @nested body hbody rest =>
    have hsize : position + 1 + (String.ofList body).utf8ByteSize =
        position + (String.ofList ('\x7b' :: body)).utf8ByteSize :=
      add_size_cons position '\x7b' body
    have hinner : scanGroup position (position + 1 + (String.ofList body).utf8ByteSize)
        ('\x7b' :: rest) =
        .error (.invalidAlternation
          (position + (String.ofList ('\x7b' :: body)).utf8ByteSize)) := by
      rw [scanGroup_open, hsize]
    rw [scan_group _ (head?_body_ne hbody (.inr (by simp))),
      scanGroup_append_eq_error _ _ hbody hinner]
    rfl
  | @unclosed body hbody =>
    have hend : scanGroup position (position + 1 + (String.ofList body).utf8ByteSize) [] =
        .error (.unbalancedBrace position) := scanGroup_nil position _
    rw [← List.append_nil body, scan_group _ (head?_body_ne hbody (.inr (by simp))),
      scanGroup_append_eq_error _ _ hbody hend]
    rfl

theorem IsLeftmostFault.scan_eq (h : IsLeftmostFault text fault) : scan 0 text = .error fault := by
  obtain ⟨before, bodies, rest, rfl, hbefore, hfaulty⟩ := h
  have hscan := hbefore.map_groups_scan 0 rest
  rw [Nat.zero_add, hfaulty.scan_eq] at hscan
  cases hresult : scan 0 (before ++ rest) with
  | error other =>
    rw [hresult] at hscan
    cases hscan
    rfl
  | ok tokens =>
    rw [hresult] at hscan
    cases hscan

theorem Grouped.exists_reads (h : Grouped text bodies) :
    ∃ tokens, Reads text tokens ∧ groups tokens = bodies.map (·.splitOn ',') := by
  have hscan := h.map_groups_scan 0 []
  rw [List.append_nil, scan_nil] at hscan
  cases hresult : scan 0 text with
  | error fault =>
    rw [hresult] at hscan
    cases hscan
  | ok tokens =>
    rw [hresult] at hscan
    refine ⟨tokens, reads_of_scan hresult, ?_⟩
    simpa [groups, Except.map] using hscan

theorem exists_body (text : List Char) :
    ∃ body rest, text = body ++ rest ∧ (∀ c ∈ body, c ∉ braces) ∧ ∀ c ∈ rest.head?, c ∈ braces := by
  induction text with
  | nil => exact ⟨[], [], rfl, by simp, by simp⟩
  | cons c text ih =>
    by_cases hc : c ∈ braces
    · exact ⟨[], c :: text, rfl, by simp, by simpa using hc⟩
    · obtain ⟨body, rest, rfl, hbody, hrest⟩ := ih
      exact ⟨c :: body, rest, rfl, List.forall_mem_cons.2 ⟨hc, hbody⟩, hrest⟩

/-- A text is grouped up to its end, or up to the first brace at fault. -/
theorem exists_grouped_before (text : List Char) :
    ∃ before bodies rest, text = before ++ rest ∧ Grouped before bodies ∧
      (rest = [] ∨ ∀ position, ∃ fault, Faulty position rest fault) := by
  induction hn : text.length using Nat.strongRecOn generalizing text with
  | _ n ih =>
    rcases text with - | ⟨c, text⟩
    · exact ⟨[], [], [], rfl, .nil, .inl rfl⟩
    rw [List.length_cons] at hn
    by_cases hc : c ∈ braces
    · unfold braces at hc
      simp only [List.mem_cons, List.not_mem_nil, or_false] at hc
      rcases hc with rfl | rfl
      · obtain ⟨body, behind, rfl, hbody, hbehind⟩ := exists_body text
        rcases behind with - | ⟨d, behind⟩
        · rw [List.append_nil]
          exact ⟨[], [], _, rfl, .nil, .inr fun position => ⟨_, .unclosed hbody⟩⟩
        have hd := hbehind d rfl
        unfold braces at hd
        simp only [List.mem_cons, List.not_mem_nil, or_false] at hd
        rcases hd with rfl | rfl
        · exact ⟨[], [], _, rfl, .nil, .inr fun position => ⟨_, .nested hbody behind⟩⟩
        · by_cases hempty : body = []
          · subst hempty
            exact ⟨[], [], _, rfl, .nil, .inr fun position => ⟨_, .empty behind⟩⟩
          · rw [List.length_append, List.length_cons] at hn
            obtain ⟨before, bodies, rest, rfl, hbefore, hrest⟩ :=
              ih behind.length (by omega) behind rfl
            refine ⟨'\x7b' :: (body ++ '\x7d' :: before), body :: bodies, rest, ?_,
              hbefore.group hempty hbody, hrest⟩
            rw [List.cons_append, List.append_assoc, List.cons_append]
      · exact ⟨[], [], _, rfl, .nil, .inr fun position => ⟨_, .stray text⟩⟩
    · obtain ⟨before, bodies, rest, rfl, hbefore, hrest⟩ := ih text.length (by omega) text rfl
      exact ⟨c :: before, bodies, rest, rfl, hbefore.plain hc, hrest⟩

theorem grouped_or_faulty (text : List Char) :
    (∃ bodies, Grouped text bodies) ∨ ∃ fault, IsLeftmostFault text fault := by
  obtain ⟨before, bodies, rest, rfl, hbefore, rfl | hfaulty⟩ := exists_grouped_before text
  · rw [List.append_nil]
    exact .inl ⟨bodies, hbefore⟩
  · obtain ⟨fault, hfault⟩ := hfaulty (String.ofList before).utf8ByteSize
    exact .inr ⟨fault, before, bodies, rest, rfl, hbefore, hfault⟩

theorem Reads.compile_eq {text : String} {tokens : List Token} (h : Reads text.toList tokens) :
    compile text = if Expression.sizeLimit < Expression.weight (tokens.map Token.part) then
      .error (.expressionTooLarge Expression.sizeLimit)
      else .ok { text, expression := tokens.map Token.part } := by
  unfold compile
  rw [h.scan_eq 0]
  rfl

theorem IsLeftmostFault.compile_eq {text : String} (h : IsLeftmostFault text.toList fault) :
    compile text = .error (fault.compileError text) := by
  unfold compile
  rw [h.scan_eq]
  rfl

/-- A grouped text is refused for its size or not at all. -/
theorem Grouped.compile_cases {text : String} (h : Grouped text.toList bodies) :
    (∃ glob, compile text = .ok glob) ∨
    compile text = .error (.expressionTooLarge Expression.sizeLimit) := by
  obtain ⟨tokens, hreads, -⟩ := h.exists_reads
  rw [hreads.compile_eq]
  split
  · exact .inr rfl
  · exact .inl ⟨_, rfl⟩

theorem Fault.compileError_ne (fault : Fault) (glob : String) (limit : Nat) :
    fault.compileError glob ≠ .expressionTooLarge limit := by
  cases fault <;> exact CompileError.noConfusion

/-- Which globs are accepted and why the others are not: braces must pair up into groups, each group
is split at its commas, and otherwise the leftmost fault is the one reported. An accepted glob has a
valid expression, which may only be too large. -/
theorem accepts_grouped_braces (text : String) :
    ((∃ glob, compile text = .ok glob) ∨
      compile text = .error (.expressionTooLarge Expression.sizeLimit) ↔
      ∃ bodies, Grouped text.toList bodies) ∧
    (∀ bodies, Grouped text.toList bodies → ∃ tokens, Reads text.toList tokens ∧
      groups tokens = bodies.map (·.splitOn ',') ∧
      Regex.read? (Expression.text (tokens.map Token.part)).toList = some (regex tokens) ∧
      compile text = if Expression.sizeLimit < Expression.weight (tokens.map Token.part) then
        .error (.expressionTooLarge Expression.sizeLimit)
        else .ok { text, expression := tokens.map Token.part }) ∧
    ∀ error, error ≠ .expressionTooLarge Expression.sizeLimit →
      (compile text = .error error ↔
        ∃ fault, IsLeftmostFault text.toList fault ∧ fault.compileError text = error) := by
  refine ⟨⟨?_, fun ⟨_, hgrouped⟩ => hgrouped.compile_cases⟩, ?_, ?_⟩
  · intro haccepted
    apply (grouped_or_faulty text.toList).resolve_right
    rintro ⟨fault, hfault⟩
    rw [hfault.compile_eq] at haccepted
    rcases haccepted with ⟨glob, heq⟩ | heq
    · cases heq
    · exact fault.compileError_ne text _ (Except.error.inj heq)
  · intro bodies hgrouped
    obtain ⟨tokens, hreads, hgroups⟩ := hgrouped.exists_reads
    have hregex : Expression.regex (tokens.map Token.part) = regex tokens := by
      rw [Expression.regex, items_parts, regex]
    exact ⟨tokens, hreads, hgroups, hregex ▸ Expression.read?_text _, hreads.compile_eq⟩
  · intro error hsize
    constructor
    · intro hrefused
      rcases grouped_or_faulty text.toList with ⟨bodies, hgrouped⟩ | ⟨fault, hfault⟩
      · have hcases := hgrouped.compile_cases
        rw [hrefused] at hcases
        rcases hcases with ⟨glob, heq⟩ | heq
        · cases heq
        · exact absurd (Except.error.inj heq) hsize
      · exact ⟨fault, hfault, Except.error.inj (hfault.compile_eq.symm.trans hrefused)⟩
    · rintro ⟨fault, hfault, rfl⟩
      exact hfault.compile_eq

/-- A group of two empty alternatives is accepted. A brace too many is found before the empty group
behind it, at its offset in bytes. -/
theorem accepts_empty_alternatives :
    Grouped "é\x7ba,\x7d*\x7b,\x7d".toList [['a', ','], [',']] ∧
    (∃ tokens, Reads "é\x7ba,\x7d*\x7b,\x7d".toList tokens ∧
      groups tokens = [[['a'], []], [[], []]]) ∧
    IsLeftmostFault "é\x7ba\x7d\x7d\x7b\x7d".toList (.unbalancedBrace 5) ∧
    compile "é\x7ba\x7d\x7d\x7b\x7d" = .error (.unbalancedBrace "é\x7ba\x7d\x7d\x7b\x7d" 5) := by
  have htext : "é\x7ba,\x7d*\x7b,\x7d".toList =
      'é' :: '\x7b' :: (['a', ','] ++ '\x7d' :: '*' :: '\x7b' :: ([','] ++ ['\x7d'])) := rfl
  have haccepted : Grouped "é\x7ba,\x7d*\x7b,\x7d".toList [['a', ','], [',']] := by
    rw [htext]
    apply Grouped.plain (by decide)
    apply Grouped.group (by decide) (by simp [braces])
    apply Grouped.plain (by decide)
    exact Grouped.group (by decide) (by simp [braces]) .nil
  have hfault : IsLeftmostFault "é\x7ba\x7d\x7d\x7b\x7d".toList (.unbalancedBrace 5) :=
    ⟨"é\x7ba\x7d".toList, [['a']], "\x7d\x7b\x7d".toList, rfl,
      .plain (by decide) (@Grouped.group ['a'] [] [] (by decide) (by simp [braces]) .nil),
      .stray ['\x7b', '\x7d']⟩
  obtain ⟨-, hgroups, -⟩ := accepts_grouped_braces "é\x7ba,\x7d*\x7b,\x7d"
  obtain ⟨-, -, hrefused⟩ := accepts_grouped_braces "é\x7ba\x7d\x7d\x7b\x7d"
  obtain ⟨tokens, hreads, htokens, -⟩ := hgroups _ haccepted
  refine ⟨haccepted, ⟨tokens, hreads, htokens⟩, hfault, ?_⟩
  exact (hrefused _ (by simp)).2 ⟨_, hfault, rfl⟩

end EdgeRouting.Glob
