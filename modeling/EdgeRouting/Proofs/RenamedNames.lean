import EdgeRouting.Proofs.RuleAcceptance
import Mathlib.Data.List.Nodup

/-!
# Renaming parameters

The names of a rule say which piece goes where and nothing else. Other names, written in place of
the old ones in source and destination, are read again where the old ones stood. As long as
different names stay different, the rule compiles as before, to the same expression and the same
template, and routes every path as before.
-/

namespace EdgeRouting

namespace Pattern

def Token.rename (new : List Char → List Char) : Token → Token
  | .literal text => .literal text
  | .parameter name => .parameter (new name)
  | .wildcard => .wildcard

def renamed (new : List Char → List Char) (pattern : List Char) : List Char :=
  ((scan pattern).map (Token.rename new)).flatMap Token.text

/-- Each name gets a new one that can stand in a pattern, and no two get the same. -/
structure IsRenaming (new : List Char → List Char) (names : List (List Char)) : Prop where
  ne_nil : ∀ name ∈ names, new name ≠ []
  isNameChar : ∀ name ∈ names, ∀ c ∈ new name, isNameChar c = true
  injective : ∀ name ∈ names, ∀ other ∈ names, new name = new other → name = other

theorem IsRenaming.mono {new : List Char → List Char} {names fewer : List (List Char)}
    (h : IsRenaming new names) (hfewer : fewer ⊆ names) : IsRenaming new fewer :=
  ⟨fun name hname => h.ne_nil name (hfewer hname),
    fun name hname => h.isNameChar name (hfewer hname),
    fun name hname other hother => h.injective name (hfewer hname) other (hfewer hother)⟩

variable {new : List Char → List Char} {pattern name rest : List Char} {tokens : List Token}

namespace Token

theorem consLiteral_nil (tokens : List Token) : consLiteral [] tokens = tokens := by
  obtain ⟨after, later, rfl, hcons⟩ | hcons := consLiteral_cases [] tokens
  · exact hcons
  · exact hcons

theorem consLiteral_append (text more : List Char) (tokens : List Token) :
    consLiteral (text ++ more) tokens = consLiteral text (consLiteral more tokens) := by
  by_cases hliteral : ∃ after later, tokens = .literal after :: later
  · obtain ⟨after, later, rfl⟩ := hliteral
    simp [consLiteral]
  · have hmark : ∀ after later, tokens ≠ .literal after :: later :=
      fun after later heq => hliteral ⟨after, later, heq⟩
    rw [consLiteral_of_mark hmark, consLiteral_of_mark hmark]
    by_cases hmore : more = []
    · rw [if_pos hmore, consLiteral_of_mark hmark, hmore, List.append_nil]
    · rw [if_neg hmore, if_neg fun hboth => hmore (List.append_eq_nil_iff.1 hboth).2]
      rfl

theorem map_rename_consLiteral (text : List Char) (tokens : List Token) :
    (consLiteral text tokens).map (rename new) = consLiteral text (tokens.map (rename new)) := by
  cases tokens with
  | nil => exact apply_ite (List.map (rename new)) (text = []) [] [.literal text]
  | cons token tokens =>
    cases token with
    | literal after => rfl
    | parameter name =>
      exact apply_ite (List.map (rename new)) (text = []) (.parameter name :: tokens)
        (.literal text :: .parameter name :: tokens)
    | wildcard =>
      exact apply_ite (List.map (rename new)) (text = []) (.wildcard :: tokens)
        (.literal text :: .wildcard :: tokens)

theorem cons_of_isNameChar {c : Char} (h : isNameChar c = true) (tokens : List Token) :
    cons c tokens = consLiteral [c] tokens := by
  have hasterisk : c ≠ '*' := by
    rintro rfl
    cases h
  have hcolon : c ≠ ':' := by
    rintro rfl
    cases h
  rw [cons.eq_def, if_neg hasterisk, if_neg hcolon]

end Token

theorem scan_append_of_isNameChar (h : ∀ c ∈ name, isNameChar c = true) (rest : List Char) :
    scan (name ++ rest) = Token.consLiteral name (scan rest) := by
  induction name with
  | nil => exact (Token.consLiteral_nil _).symm
  | cons c name ih =>
    rw [List.cons_append, scan_cons, Token.cons_of_isNameChar (h c List.mem_cons_self),
      ih fun d hd => h d (List.mem_cons_of_mem c hd), ← Token.consLiteral_append]
    rfl

theorem dropWhile_eq_self {text : List Char} (h : ¬ BeginsName text) :
    text.dropWhile isNameChar = text := by
  have hsplit := List.takeWhile_append_dropWhile (p := isNameChar) (l := text)
  rwa [takeWhile_eq_nil_iff.2 h, List.nil_append] at hsplit

theorem not_beginsName_dropWhile (text : List Char) : ¬ BeginsName (text.dropWhile isNameChar) := by
  have hhead := List.head?_dropWhile_not isNameChar text
  rw [BeginsName]
  cases hdrop : text.dropWhile isNameChar with
  | nil => decide
  | cons c rest =>
    rw [hdrop] at hhead
    simpa using hhead

/-- A name cut off from a pattern is cut off from the literal in front of its tokens. -/
theorem scan_dropWhile {text : List Char} {later : List Token}
    (h : scan pattern = .literal text :: later) :
    scan (pattern.dropWhile isNameChar) = Token.consLiteral (text.dropWhile isNameChar) later := by
  have hname : ∀ c ∈ pattern.takeWhile isNameChar, isNameChar c = true :=
    fun c hc => List.mem_takeWhile_imp hc
  have hscan := scan_append_of_isNameChar hname (pattern.dropWhile isNameChar)
  rw [List.takeWhile_append_dropWhile, h] at hscan
  by_cases hliteral : ∃ after own, scan (pattern.dropWhile isNameChar) = .literal after :: own
  · obtain ⟨after, own, hafter⟩ := hliteral
    have hcanonical := isCanonical_scan (pattern.dropWhile isNameChar)
    have hempty := not_beginsName_dropWhile pattern
    rw [← takeWhile_eq_nil_iff, takeWhile_of_scan hafter, takeWhile_eq_nil_iff] at hempty
    rw [hafter] at hscan hcanonical ⊢
    cases hscan
    rw [List.dropWhile_append_of_pos hname, dropWhile_eq_self hempty]
    cases hcanonical with
    | literal hne hnext _ => rw [Token.consLiteral_of_mark hnext, if_neg hne]
  · have hmark : ∀ after own, scan (pattern.dropWhile isNameChar) ≠ .literal after :: own :=
      fun after own heq => hliteral ⟨after, own, heq⟩
    rw [Token.consLiteral_of_mark hmark] at hscan
    split at hscan
    · exact absurd hscan.symm (hmark text later)
    · cases hscan
      rw [List.dropWhile_eq_nil_iff.2 hname, Token.consLiteral_nil]

/-- A colon makes a parameter of a name behind it, and the rest is read as it would be by itself. -/
theorem scan_parameter (hne : name ≠ []) (hname : ∀ c ∈ name, isNameChar c = true)
    (hrest : ¬ BeginsName rest) : scan (':' :: (name ++ rest)) = .parameter name :: scan rest := by
  have htake : (name ++ rest).takeWhile isNameChar = name := by
    rw [List.takeWhile_append_of_pos hname, takeWhile_eq_nil_iff.2 hrest, List.append_nil]
  have hdrop : (name ++ rest).dropWhile isNameChar = rest := by
    rw [List.dropWhile_append_of_pos hname, dropWhile_eq_self hrest]
  obtain ⟨hnone, -⟩ | ⟨text, later, htext, -, hcolon⟩ := scan_colon (name ++ rest)
  · exact absurd (htake.symm.trans hnone) hne
  · rw [hcolon, htake, ← scan_dropWhile htext, hdrop]

theorem name?_rename (token : Token) : (token.rename new).name? = token.name?.map new := by
  cases token <;> rfl

theorem part_rename (token : Token) : (token.rename new).part = token.part := by
  cases token <;> rfl

theorem literal_mem_map_rename {text : List Char} :
    .literal text ∈ tokens.map (Token.rename new) ↔ .literal text ∈ tokens := by
  rw [List.mem_map]
  constructor
  · rintro ⟨token, htoken, heq⟩
    cases token <;> cases heq
    exact htoken
  · intro h
    exact ⟨.literal text, h, rfl⟩

theorem head?_renamed (new : List Char → List Char) (pattern : List Char) :
    (renamed new pattern).head? = pattern.head? := by
  have hcanonical := isCanonical_scan pattern
  have htext := text_scan pattern
  rw [renamed]
  generalize scan pattern = tokens at hcanonical htext
  subst htext
  cases hcanonical with
  | nil => rfl
  | literal hne hnext hrest =>
    obtain ⟨c, text, rfl⟩ := List.exists_cons_of_ne_nil hne
    rfl
  | parameter hrest => rfl
  | wildcard hrest => rfl

theorem beginsName_renamed : BeginsName (renamed new pattern) ↔ BeginsName pattern := by
  rw [BeginsName, BeginsName, head?_renamed]

theorem scan_cons_of_literal {c : Char} (hasterisk : c ≠ '*')
    (hcolon : c = ':' → ¬ BeginsName rest) :
    scan (c :: rest) = Token.consLiteral [c] (scan rest) := by
  by_cases hc : c = ':'
  · subst hc
    obtain ⟨-, hscan⟩ | ⟨text, later, -, hname, -⟩ := scan_colon rest
    · exact hscan
    · exact absurd (takeWhile_eq_nil_iff.2 (hcolon rfl)) hname
  · rw [scan_cons, Token.cons.eq_def, if_neg hasterisk, if_neg hc]

theorem renamed_cons_of_literal {c : Char} (hasterisk : c ≠ '*')
    (hcolon : c = ':' → ¬ BeginsName rest) : renamed new (c :: rest) = c :: renamed new rest := by
  rw [renamed, scan_cons_of_literal hasterisk hcolon, Token.map_rename_consLiteral,
    Token.text_consLiteral]
  rfl

/-- The new names are read again where the old ones stood. -/
theorem scan_renamed (h : IsRenaming new (names pattern)) :
    scan (renamed new pattern) = (scan pattern).map (Token.rename new) := by
  induction pattern with
  | nil => rfl
  | cons c pattern ih =>
    have hnames : names pattern ⊆ names (c :: pattern) := by
      rw [names]
      split
      · exact List.subset_cons_self _ _
      · exact List.Subset.refl _
    have ih := ih (h.mono hnames)
    by_cases hasterisk : c = '*'
    · subst hasterisk
      have hrenamed : renamed new ('*' :: pattern) = '*' :: renamed new pattern := rfl
      rw [hrenamed, scan_cons, scan_cons]
      exact congrArg (Token.wildcard :: ·) ih
    by_cases hcolon : c = ':' → ¬ BeginsName pattern
    · have hcolon' : c = ':' → ¬ BeginsName (renamed new pattern) := fun hc => by
        rw [beginsName_renamed]
        exact hcolon hc
      rw [renamed_cons_of_literal hasterisk hcolon, scan_cons_of_literal hasterisk hcolon', ih,
        scan_cons_of_literal hasterisk hcolon, Token.map_rename_consLiteral]
    · rw [Classical.not_imp, not_not] at hcolon
      obtain ⟨rfl, hbegins⟩ := hcolon
      obtain ⟨hnone, -⟩ | ⟨text, later, hpattern, hname, hscan⟩ := scan_colon pattern
      · exact absurd hbegins (takeWhile_eq_nil_iff.1 hnone)
      have hmem : pattern.takeWhile isNameChar ∈ names (':' :: pattern) := by
        rw [names, if_pos ⟨rfl, hname⟩]
        exact List.mem_cons_self
      -- Behind its first name, which still is the old one, the renamed rest goes on as it does
      -- behind the new name.
      rw [hpattern] at ih
      have hrest := scan_dropWhile ih
      have hrenamed : renamed new (':' :: pattern) =
          ':' ::
            (new (pattern.takeWhile isNameChar) ++ (renamed new pattern).dropWhile isNameChar) := by
        rw [← text_scan ((renamed new pattern).dropWhile isNameChar), hrest,
          ← Token.map_rename_consLiteral, renamed, hscan]
        rfl
      rw [hrenamed,
        scan_parameter (h.ne_nil _ hmem) (h.isNameChar _ hmem) (not_beginsName_dropWhile _),
        hrest, hscan, List.map_cons, Token.map_rename_consLiteral]
      rfl

theorem names_renamed (h : IsRenaming new (names pattern)) :
    names (renamed new pattern) = (names pattern).map new := by
  rw [← names_scan, ← names_scan, scan_renamed h, List.filterMap_map, List.map_filterMap]
  congr 1
  funext token
  exact name?_rename token

theorem count_renamed (h : IsRenaming new (names pattern)) :
    (renamed new pattern).count '*' = pattern.count '*' := by
  rw [← count_scan, ← count_scan, scan_renamed h]
  generalize scan pattern = tokens
  induction tokens with
  | nil => rfl
  | cons token tokens ih =>
    rw [List.map_cons, List.count_cons, List.count_cons, ih]
    cases token <;> rfl

/-- Characters that can stand in a literal only are where they were. -/
theorem mem_renamed_iff (h : IsRenaming new (names pattern)) {c : Char}
    (hcolon : c ≠ ':') (hasterisk : c ≠ '*') (hname : isNameChar c = false) :
    c ∈ renamed new pattern ↔ c ∈ pattern := by
  have hother : ∀ d, isNameChar d = true → (d != c) = true := by
    intro d hd
    rw [bne_iff_ne]
    rintro rfl
    rw [hname] at hd
    cases hd
  have hliterals (pattern : List Char) : c ∉ pattern ↔
      ∀ text, .literal text ∈ scan pattern → c ∉ text := by
    have hall :=
      @all_scan_iff (· != c) (bne_iff_ne.2 hcolon.symm) (bne_iff_ne.2 hasterisk.symm) hother pattern
    simpa [List.all_bne'] using hall.symm
  rw [← not_iff_not, hliterals, hliterals, scan_renamed h]
  simp only [literal_mem_map_rename]

theorem Token.forall_literal_consLiteral {c : Char} {text : List Char} {tokens : List Token} :
    (∀ own, .literal own ∈ consLiteral text tokens → c ∉ own) ↔
      c ∉ text ∧ ∀ own, .literal own ∈ tokens → c ∉ own := by
  obtain ⟨after, later, rfl, hcons⟩ | hcons := consLiteral_cases text tokens
  · rw [hcons]
    simp [or_imp, forall_and, and_assoc]
  · rw [hcons]
    split
    case isTrue hnil => simp [hnil]
    case isFalse => simp [or_imp, forall_and]

/-- A colon is left in a literal exactly if no name stands behind it. -/
theorem colonsNamed_iff :
    ColonsNamed pattern ↔ ∀ text, .literal text ∈ scan pattern → ':' ∉ text := by
  induction pattern with
  | nil => exact iff_of_true colonsNamed_nil nofun
  | cons c pattern ih =>
    rw [colonsNamed_cons, ih]
    by_cases hasterisk : c = '*'
    · subst hasterisk
      simp [scan_cons, Token.cons]
    by_cases hcolon : c = ':' → ¬ BeginsName pattern
    · rw [scan_cons_of_literal hasterisk hcolon, Token.forall_literal_consLiteral]
      refine and_congr_left fun _ => ?_
      rw [List.mem_singleton]
      exact ⟨fun h hc => hcolon hc.symm (h hc.symm), fun h hc => absurd hc.symm h⟩
    · rw [Classical.not_imp, not_not] at hcolon
      obtain ⟨rfl, hbegins⟩ := hcolon
      obtain ⟨hnone, -⟩ | ⟨text, later, hpattern, hname, hscan⟩ := scan_colon pattern
      · exact absurd hbegins (takeWhile_eq_nil_iff.1 hnone)
      have hown : ':' ∉ text.takeWhile isNameChar :=
        fun hmem => absurd (List.mem_takeWhile_imp hmem) (by decide)
      have htext : ':' ∉ text.dropWhile isNameChar ↔ ':' ∉ text := by
        nth_rewrite 2 [← List.takeWhile_append_dropWhile (p := isNameChar) (l := text)]
        rw [List.mem_append, not_or, and_iff_right hown]
      rw [hscan, hpattern]
      simp [Token.forall_literal_consLiteral, or_imp, forall_and, htext, hbegins]

theorem colonsNamed_renamed (h : IsRenaming new (names pattern)) :
    ColonsNamed (renamed new pattern) ↔ ColonsNamed pattern := by
  rw [colonsNamed_iff, colonsNamed_iff, scan_renamed h]
  simp only [literal_mem_map_rename]

theorem isPath_renamed (h : IsRenaming new (names pattern)) :
    IsPath (renamed new pattern) ↔ IsPath pattern := by
  rw [IsPath, IsPath, head?_renamed, mem_renamed_iff h (by decide) (by decide) (by decide),
    mem_renamed_iff h (by decide) (by decide) (by decide)]

theorem isSource_renamed (h : IsRenaming new (names pattern)) :
    IsSource (renamed new pattern) ↔ IsSource pattern := by
  have hnodup : (names (renamed new pattern)).Nodup ↔ (names pattern).Nodup := by
    rw [names_renamed h]
    exact ⟨List.Nodup.of_map new, List.Nodup.map_on h.injective⟩
  constructor
  · rintro ⟨hpath, hcolons, hnames⟩
    exact ⟨(isPath_renamed h).1 hpath, (colonsNamed_renamed h).1 hcolons, hnodup.1 hnames⟩
  · rintro ⟨hpath, hcolons, hnames⟩
    exact ⟨(isPath_renamed h).2 hpath, (colonsNamed_renamed h).2 hcolons, hnodup.2 hnames⟩

theorem expression_renamed (h : IsRenaming new (names pattern)) :
    expression (renamed new pattern) = expression pattern := by
  rw [expression, scan_renamed h, List.map_map]
  exact List.map_congr_left fun token _ => part_rename token

end Pattern

def CaptureSlot.rename (new : List Char → List Char) : CaptureSlot → CaptureSlot
  | .parameter name => .parameter (String.ofList (new name.toList))
  | .wildcard index => .wildcard index

namespace Rule

open Pattern (Token IsRenaming)

variable {new : List Char → List Char} {source destination : String} {rule rule' : Rule}

def renamed (new : List Char → List Char) (text : String) : String :=
  String.ofList (Pattern.renamed new text.toList)

@[simp] theorem toList_renamed (text : String) :
    (renamed new text).toList = Pattern.renamed new text.toList :=
  String.toList_ofList

theorem acceptable_iff : Acceptable source destination ↔
    Pattern.IsSource source.toList ∧ Pattern.IsPath destination.toList ∧
      destination.toList.count '*' ≤ source.toList.count '*' ∧
      ∀ name ∈ Pattern.names destination.toList, name ∈ Pattern.names source.toList :=
  ⟨fun ⟨hsource, hpath, hwildcards, hnames⟩ => ⟨hsource, hpath, hwildcards, hnames⟩,
    fun ⟨hsource, hpath, hwildcards, hnames⟩ => ⟨hsource, hpath, hwildcards, hnames⟩⟩

theorem acceptable_renamed
    (h : IsRenaming new (Pattern.names source.toList ++ Pattern.names destination.toList)) :
    Acceptable (renamed new source) (renamed new destination) ↔ Acceptable source destination := by
  have hsource := h.mono (List.subset_append_left _ _)
  have hdestination := h.mono (List.subset_append_right _ _)
  have hnames : (∀ name ∈ (Pattern.names destination.toList).map new,
      name ∈ (Pattern.names source.toList).map new) ↔
      ∀ name ∈ Pattern.names destination.toList, name ∈ Pattern.names source.toList := by
    rw [List.forall_mem_map]
    refine forall₂_congr fun name hname => ⟨fun hmem => ?_, List.mem_map_of_mem⟩
    obtain ⟨other, hother, heq⟩ := List.mem_map.1 hmem
    rwa [h.injective name (List.mem_append_right _ hname) other
      (List.mem_append_left _ hother) heq.symm]
  rw [acceptable_iff, acceptable_iff]
  simp only [toList_renamed, Pattern.isSource_renamed hsource, Pattern.isPath_renamed hdestination,
    Pattern.count_renamed hsource, Pattern.count_renamed hdestination,
    Pattern.names_renamed hsource, Pattern.names_renamed hdestination, hnames]

theorem captureOrderFrom_rename (wildcards : Nat) (tokens : List Token) :
    captureOrderFrom wildcards (tokens.map (Token.rename new)) =
      (captureOrderFrom wildcards tokens).map (CaptureSlot.rename new) := by
  induction tokens generalizing wildcards with
  | nil => rfl
  | cons token tokens ih =>
    cases token with
    | literal text => exact ih wildcards
    | parameter name => simp [captureOrderFrom, Token.rename, CaptureSlot.rename, ih]
    | wildcard => simp [captureOrderFrom, Token.rename, CaptureSlot.rename, ih]

theorem wildcardSlots_rename (slot : Nat) (order : List CaptureSlot) :
    wildcardSlots slot (order.map (CaptureSlot.rename new)) = wildcardSlots slot order := by
  induction order generalizing slot with
  | nil => rfl
  | cons capture order ih =>
    cases capture with
    | parameter name => exact ih (slot + 1)
    | wildcard index => exact congrArg (slot :: ·) (ih (slot + 1))

theorem idxOf?_map {α β : Type} [BEq α] [LawfulBEq α] [BEq β] [LawfulBEq β] {f : α → β}
    {items : List α} {a : α} (h : ∀ item ∈ items, f item = f a → item = a) :
    (items.map f).idxOf? (f a) = items.idxOf? a := by
  induction items with
  | nil => rfl
  | cons item items ih =>
    have hsame : (f item == f a) = (item == a) := by
      rw [Bool.eq_iff_iff, beq_iff_eq, beq_iff_eq]
      exact ⟨h item List.mem_cons_self, congrArg f⟩
    rw [List.map_cons, List.idxOf?_cons, List.idxOf?_cons, hsame,
      ih fun other hother => h other (List.mem_cons_of_mem item hother)]

theorem rename_injOn_captureOrderFrom {tokens : List Token} {wildcards : Nat}
    (h : IsRenaming new (tokens.filterMap Token.name?)) :
    ∀ slot ∈ captureOrderFrom wildcards tokens, ∀ other ∈ captureOrderFrom wildcards tokens,
      slot.rename new = other.rename new → slot = other := by
  have hname (name : String) (hmem : .parameter name ∈ captureOrderFrom wildcards tokens) :
      name.toList ∈ tokens.filterMap Token.name? := by
    rwa [← String.ofList_toList (s := name), parameter_mem_captureOrderFrom] at hmem
  intro slot hslot other hother heq
  cases slot with
  | parameter name =>
    cases other with
    | parameter name' =>
      have hnew := String.ofList_inj.1 (CaptureSlot.parameter.inj heq)
      rw [String.toList_inj.1 (h.injective _ (hname name hslot) _ (hname name' hother) hnew)]
    | wildcard index => cases heq
  | wildcard index =>
    cases other with
    | parameter name => cases heq
    | wildcard index' => exact heq

/-- A template refers to slots only, so the same names bound to the same slots give the same
template. -/
theorem bindTokens_rename {order : List CaptureSlot} {undefined undefined' : String → CompileError}
    {excess excess' : CompileError} {free : List Nat} {tokens : List Token}
    {template : List TemplatePart}
    (hinjective : ∀ slot ∈ order, ∀ other ∈ order, slot.rename new = other.rename new →
      slot = other)
    (h : bindTokens order undefined excess free tokens = .ok template) :
    bindTokens (order.map (CaptureSlot.rename new)) undefined' excess' free
      (tokens.map (Token.rename new)) =
      .ok template := by
  induction tokens generalizing free template with
  | nil => exact h
  | cons token tokens ih =>
    cases token with
    | literal text =>
      obtain ⟨rest, hrest, rfl⟩ := bindTokens_literal_iff.1 h
      exact bindTokens_literal_iff.2 ⟨rest, ih hrest, rfl⟩
    | parameter name =>
      obtain ⟨slot, rest, hslot, hrest, rfl⟩ := bindTokens_parameter_iff.1 h
      refine bindTokens_parameter_iff.2 ⟨slot, rest, ?_, ih hrest, rfl⟩
      have hmem : .parameter (String.ofList name) ∈ order := by
        obtain ⟨hlt, heq, -⟩ := List.idxOf?_eq_some_iff.1 hslot
        exact heq ▸ List.getElem_mem hlt
      have hrename : CaptureSlot.rename new (.parameter (String.ofList name)) =
          .parameter (String.ofList (new name)) := by
        rw [CaptureSlot.rename, String.toList_ofList]
      rw [← hrename, idxOf?_map fun other hother => hinjective other hother _ hmem]
      exact hslot
    | wildcard =>
      obtain ⟨slot, later, rest, rfl, hrest, rfl⟩ := bindTokens_wildcard_iff.1 h
      exact bindTokens_wildcard_iff.2 ⟨slot, later, rest, rfl, ih hrest, rfl⟩

theorem Passed.template_renamed
    (h : IsRenaming new (Pattern.names source.toList ++ Pattern.names destination.toList))
    (hrule : Passed source destination rule)
    (hrule' : Passed (renamed new source) (renamed new destination) rule') :
    rule'.template = rule.template := by
  have hsource := h.mono (List.subset_append_left _ _)
  have hdestination := h.mono (List.subset_append_right _ _)
  have hbound := (compileTemplate_eq_ok_iff.1 hrule.templateBound).2
  have hbound' := (compileTemplate_eq_ok_iff.1 hrule'.templateBound).2
  rw [toList_renamed, toList_renamed, Pattern.scan_renamed hsource,
    Pattern.scan_renamed hdestination, captureOrderFrom_rename, wildcardSlots_rename] at hbound'
  rw [← Pattern.names_scan] at hsource
  rw [bindTokens_rename (rename_injOn_captureOrderFrom hsource) hbound] at hbound'
  exact (Except.ok.inj hbound').symm

/-- A rule under new names compiles exactly where it does under the old ones. Its expression and its
template are the same, its capture order is the same under the new names, and it routes every path
as before. -/
theorem renamed_alike
    (h : IsRenaming new (Pattern.names source.toList ++ Pattern.names destination.toList)) :
    (∀ text ∈ [source, destination],
      Pattern.scan (renamed new text).toList = (Pattern.scan text.toList).map (Token.rename new)) ∧
    ((∃ rule', compile (renamed new source) (renamed new destination) = .ok rule') ↔
      ∃ rule, compile source destination = .ok rule) ∧
    ∀ rule rule', compile source destination = .ok rule →
      compile (renamed new source) (renamed new destination) = .ok rule' →
        rule'.expression = rule.expression ∧ rule'.pattern = rule.pattern ∧
        rule'.template = rule.template ∧
        rule'.captureOrder = rule.captureOrder.map (CaptureSlot.rename new) ∧
        ∀ path, rule'.isMatch path = rule.isMatch path ∧ rule'.route? path = rule.route? path := by
  have hsource := h.mono (List.subset_append_left _ _)
  have hdestination := h.mono (List.subset_append_right _ _)
  refine ⟨?_, ?_, fun rule rule' hrule hrule' => ?_⟩
  · intro text htext
    rw [toList_renamed]
    rcases List.mem_pair.1 htext with rfl | rfl
    · exact Pattern.scan_renamed hsource
    · exact Pattern.scan_renamed hdestination
  · rw [exists_compile_iff, exists_compile_iff, acceptable_renamed h, toList_renamed,
      Pattern.expression_renamed hsource]
  · have hpassed := compile_eq_ok_iff.1 hrule
    have hpassed' := compile_eq_ok_iff.1 hrule'
    have hexpression : rule'.expression = rule.expression := by
      rw [hpassed.expression_eq, hpassed'.expression_eq, toList_renamed]
      exact Pattern.expression_renamed hsource
    have htemplate := hpassed.template_renamed h hpassed'
    have hpattern : rule'.pattern = rule.pattern := by rw [pattern, pattern, hexpression]
    refine ⟨hexpression, hpattern, htemplate, ?_, fun path => ⟨?_, ?_⟩⟩
    · rw [hpassed.captureOrder_eq, hpassed'.captureOrder_eq, toList_renamed,
        Pattern.scan_renamed hsource, captureOrderFrom_rename]
    · rw [isMatch, isMatch, hexpression]
    · rw [route?, route?, hexpression, htemplate]

/-- Two names, one of which begins with the other, change places; a colon before no name stays as it
is. -/
theorem renamed_swapped_names : ∃ (new : List Char → List Char) (rule rule' : Rule),
    IsRenaming new ["a".toList, "ab".toList] ∧ new "a".toList = "ab".toList ∧
    new "ab".toList = "a".toList ∧
    renamed new "/:a/:ab/*" = "/:ab/:a/*" ∧ renamed new "/x:/:ab-:a/*" = "/x:/:a-:ab/*" ∧
    compile "/:a/:ab/*" "/x:/:ab-:a/*" = .ok rule ∧ compile "/:ab/:a/*" "/x:/:a-:ab/*" = .ok rule' ∧
    rule'.template = rule.template ∧
    rule'.captureOrder = [.parameter "ab", .parameter "a", .wildcard 0] ∧
    rule.route? "/k/l/m/n" = some "/x:/l-k/m/n" ∧ rule'.route? "/k/l/m/n" = some "/x:/l-k/m/n" := by
  let new (name : List Char) : List Char :=
    if name = "a".toList then "ab".toList else if name = "ab".toList then "a".toList else name
  let rule : Rule := {
    source := "/:a/:ab/*"
    destination := "/x:/:ab-:a/*"
    expression := [.literal ['/'], .parameter, .literal ['/'], .parameter,
      .literal ['/'], .wildcard]
    captureOrder := [.parameter "a", .parameter "ab", .wildcard 0]
    template := [.literal "/x:/", .capture 1, .literal "-", .capture 0, .literal "/", .capture 2] }
  have hchars : ∀ name ∈ ["a".toList, "ab".toList], (new name).all Pattern.isNameChar = true := by
    decide +kernel
  have hswap : IsRenaming new ["a".toList, "ab".toList] :=
    ⟨by decide +kernel, fun name hname => List.all_eq_true.1 (hchars name hname), by decide +kernel⟩
  have hnew :
      IsRenaming new (Pattern.names "/:a/:ab/*".toList ++ Pattern.names "/x:/:ab-:a/*".toList) :=
    hswap.mono (by decide +kernel)
  have hsource : renamed new "/:a/:ab/*" = "/:ab/:a/*" := by decide +kernel
  have hdestination : renamed new "/x:/:ab-:a/*" = "/x:/:a-:ab/*" := by decide +kernel
  have hrule : compile "/:a/:ab/*" "/x:/:ab-:a/*" = .ok rule := by decide +kernel
  have hroute : rule.route? "/k/l/m/n" = some "/x:/l-k/m/n" := by decide +kernel
  obtain ⟨-, hcompile, hsame⟩ := renamed_alike hnew
  obtain ⟨rule', hrule'⟩ := hcompile.2 ⟨rule, hrule⟩
  obtain ⟨-, -, htemplate, horder, hroutes⟩ := hsame rule rule' hrule hrule'
  rw [hsource, hdestination] at hrule'
  refine ⟨new, rule, rule', hswap, rfl, rfl, hsource, hdestination, hrule, hrule',
    htemplate, ?_, hroute, (hroutes _).2.trans hroute⟩
  rw [horder]
  decide +kernel

end Rule

end EdgeRouting
