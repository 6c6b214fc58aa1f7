import EdgeRouting.Expression.Cut
import Mathlib.Data.List.Forall2
import Mathlib.Data.List.Infix

/-!
# The order in which cuts are tried

`Part.pieces` lists the beginnings of a path that a part may take, a longer run before a shorter one
and the alternatives of a group as they are written. `Expression.cuts` lists all cuts of a path in
the order in which they are tried from left to right. The rows of `cut?` hold the first cut of each
tail. Where nothing but literals stands between the captured parts, that cut is the one whose
captured lengths are the greatest, compared from left to right.
-/

namespace EdgeRouting

/-- `path` is the pieces one after another, one for each token. -/
def CutsAlong {τ : Type} (admits : τ → List Char → Prop) (tokens : List τ) (path : List Char)
    (pieces : List (List Char)) : Prop :=
  pieces.flatten = path ∧ List.Forall₂ admits tokens pieces

def runs (stop : Char) : List Char → List (List Char)
  | [] => [[]]
  | c :: path => (if c = stop then [] else (runs stop path).map (c :: ·)) ++ [[]]

def slashRuns (path : List Char) : List (List Char) :=
  ((runs '\n' path).map (· ++ ['/'])).filter (·.isPrefixOf path)

namespace Part

/-- The beginnings of a path that a part may take, in the order in which they are tried. -/
def pieces : Part → List Char → List (List Char)
  | .literal text, path => [text].filter (·.isPrefixOf path)
  | .parameter, path => (runs '/' path).filter (· ≠ [])
  | .wildcard, path => runs '\n' path
  | .withinSegment, path => runs '/' path
  | .withinLine, path => runs '\n' path
  | .directories, path => slashRuns path ++ [[]]
  | .oneOf alternatives, path => alternatives.filter (·.isPrefixOf path)

end Part

namespace Expression

/-- All cuts of a path, in the order in which they are tried. -/
def cuts : Expression → List Char → List Cut
  | [], path => if path = [] then [[]] else []
  | part :: e, path =>
    (part.pieces path).flatMap fun piece => (cuts e (path.drop piece.length)).map (piece :: ·)

end Expression

theorem mem_runs {stop : Char} {path piece : List Char} :
    piece ∈ runs stop path ↔ stop ∉ piece ∧ piece <+: path := by
  induction path generalizing piece with
  | nil => cases piece <;> simp [runs]
  | cons c path ih =>
    cases piece with
    | nil => simp [runs]
    | cons d piece =>
      by_cases hc : c = stop
      · subst hc
        simp [runs, List.cons_prefix_cons]
        grind
      · simp only [runs, if_neg hc, List.mem_append, List.mem_map, List.mem_singleton,
          List.cons_prefix_cons, ih]
        grind

theorem mem_slashRuns {path piece : List Char} :
    piece ∈ slashRuns path ↔ (∃ names, '\n' ∉ names ∧ piece = names ++ ['/']) ∧ piece <+: path := by
  simp only [slashRuns, List.mem_filter, List.mem_map, mem_runs, List.isPrefixOf_iff_prefix]
  constructor
  · rintro ⟨⟨names, ⟨hnames, -⟩, rfl⟩, hpath⟩
    exact ⟨⟨names, hnames, rfl⟩, hpath⟩
  · rintro ⟨⟨names, hnames, rfl⟩, hpath⟩
    exact ⟨⟨names, ⟨hnames, (List.prefix_append names ['/']).trans hpath⟩, rfl⟩, hpath⟩

theorem runs_filter_nonempty (stop c : Char) (path : List Char) :
    (runs stop (c :: path)).filter (· ≠ []) = if c =
      stop then [] else (runs stop path).map (c :: ·) := by
  by_cases hc : c = stop <;> simp [runs, hc, List.filter_map, Function.comp_def]

theorem slashRuns_cons (c : Char) (path : List Char) :
    slashRuns (c :: path) = (if c = '\n' then [] else (slashRuns path).map (c :: ·)) ++
      (if c = '/' then [['/']] else []) := by
  by_cases hline : c = '\n'
  · simp [slashRuns, runs, hline]
  · by_cases hslash : c = '/'
    · simp [slashRuns, runs, hslash, List.filter_map, Function.comp_def]
    · simp [slashRuns, runs, hline, hslash, Ne.symm hslash, List.filter_map, Function.comp_def]

namespace Part

theorem mem_pieces {part : Part} {path piece : List Char} :
    piece ∈ part.pieces path ↔ part.Admits piece ∧ piece <+: path := by
  cases part with
  | literal text =>
    simp only [pieces, Admits, List.mem_filter, List.mem_singleton, List.isPrefixOf_iff_prefix]
  | parameter => simp only [pieces, Admits, List.mem_filter, mem_runs]; grind
  | wildcard => exact mem_runs
  | withinSegment => exact mem_runs
  | withinLine => exact mem_runs
  | directories =>
    simp only [pieces, Admits, List.mem_append, mem_slashRuns, List.mem_singleton]
    grind
  | oneOf alternatives =>
    simp only [pieces, Admits, List.mem_filter, List.isPrefixOf_iff_prefix]

end Part

namespace Expression

theorem mem_cuts {e : Expression} {path : List Char} {pieces : Cut} :
    pieces ∈ cuts e path ↔ Cuts e path pieces := by
  induction e generalizing path pieces with
  | nil => simp only [cuts, Cuts]; split <;> simp_all
  | cons part e ih =>
    cases pieces with
    | nil => simp [cuts, Cuts]
    | cons piece pieces =>
      simp only [cuts, Cuts, List.mem_flatMap, List.mem_map, Part.mem_pieces, ih, List.cons.injEq]
      constructor
      · rintro ⟨_, ⟨hpiece, rest, rfl⟩, _, hrest, rfl, rfl⟩
        exact ⟨rest, rfl, hpiece, by simpa using hrest⟩
      · rintro ⟨rest, rfl, hpiece, hrest⟩
        exact ⟨piece, ⟨hpiece, List.prefix_append _ _⟩, pieces, by simpa using hrest, rfl, rfl⟩

theorem cuts_iff {e : Expression} {path : List Char} {pieces : Cut} :
    Cuts e path pieces ↔ CutsAlong Part.Admits e path pieces := by
  induction e generalizing path pieces with
  | nil =>
    rw [Cuts, CutsAlong, List.forall₂_nil_left_iff]
    constructor
    · rintro ⟨rfl, rfl⟩
      exact ⟨rfl, rfl⟩
    · rintro ⟨rfl, rfl⟩
      exact ⟨rfl, rfl⟩
  | cons part e ih =>
    cases pieces with
    | nil => simp [Cuts, CutsAlong]
    | cons piece pieces =>
      simp only [Cuts, ih, CutsAlong, List.flatten_cons, List.forall₂_cons]
      constructor
      · rintro ⟨rest, rfl, hpiece, rfl, hpieces⟩
        exact ⟨rfl, hpiece, hpieces⟩
      · rintro ⟨rfl, hpiece, hpieces⟩
        exact ⟨_, rfl, hpiece, rfl, hpieces⟩

theorem cuts_map_iff {τ : Type} {part : τ → Part} {tokens : List τ} {path : List Char}
    {pieces : Cut} :
    Cuts (tokens.map part) path pieces ↔
      CutsAlong (fun token => (part token).Admits) tokens path pieces := by
  rw [cuts_iff, CutsAlong, CutsAlong, List.forall₂_map_left_iff]

variable {f : List Char → Option Cut}

/-- The first piece after which the rest of the path can be cut, with the cut that `f` gives of the
rest. -/
def firstOf (pieces : List (List Char)) (f : List Char → Option Cut) (path : List Char) :
    Option Cut :=
  pieces.findSome? fun piece => (f (path.drop piece.length)).map (piece :: ·)

def rowOf (f : List Char → Option Cut) (path : List Char) : Row :=
  path.tails.map f

@[simp] theorem rowOf_nil : rowOf f [] = [f []] := by simp [rowOf]

@[simp] theorem rowOf_cons (c : Char) (path : List Char) :
    rowOf f (c :: path) = f (c :: path) :: rowOf f path := by simp [rowOf]

@[simp] theorem head?_rowOf (path : List Char) : (rowOf f path).head? = some (f path) := by
  cases path <;> simp

theorem drop_rowOf {n : Nat} {path : List Char} (hn : n ≤ path.length) :
    (rowOf f path).drop n = rowOf f (path.drop n) := by
  induction n generalizing path with
  | zero => rfl
  | succ n ih =>
    cases path with
    | nil => simp at hn
    | cons c path => simpa using ih (by simpa using hn)

theorem cuts_head? (part : Part) (e : Expression) (path : List Char) :
    (cuts (part :: e) path).head? =
      firstOf (part.pieces path) (fun rest => (cuts e rest).head?) path := by
  simp [cuts, firstOf, List.head?_flatMap]

theorem firstOf_map_cons (c : Char) (pieces : List (List Char)) (path : List Char) :
    firstOf (pieces.map (c :: ·)) f (c :: path) = (firstOf pieces f path).map (extend c) := by
  simp only [firstOf, List.findSome?_map, List.map_findSome?]
  congr 1
  funext piece
  cases h : f (path.drop piece.length) <;> simp [h, extend]

theorem firstOf_cons (piece : List Char) (pieces : List (List Char)) (path : List Char) :
    firstOf (piece :: pieces) f path =
      ((f (path.drop piece.length)).map (piece :: ·)).or (firstOf pieces f path) := by
  simp only [firstOf, List.findSome?_cons]
  cases f (path.drop piece.length) <;> rfl

theorem firstOf_append (pieces more : List (List Char)) (path : List Char) :
    firstOf (pieces ++ more) f path = (firstOf pieces f path).or (firstOf more f path) := by
  simp [firstOf]

@[simp] theorem firstOf_empty (path : List Char) : firstOf [] f path = none := rfl

theorem firstOf_nil (path : List Char) : firstOf [[]] f path = (f path).map ([] :: ·) := by
  simp [firstOf_cons]

theorem choose_cons (text : List Char) (texts : List (List Char)) (path : List Char) (next : Row) :
    choose (text :: texts) path next =
      (if text.isPrefixOf path then ((next.drop text.length).headD none).map (text :: ·)
        else none).or
        (choose texts path next) := by
  simp only [choose, List.findSome?_cons]
  split
  · rename_i h
    rw [h, Option.some_or]
  · rename_i h
    rw [h, Option.none_or]

theorem choose_rowOf (texts : List (List Char)) (path : List Char) :
    choose texts path (rowOf f path) = firstOf (texts.filter (·.isPrefixOf path)) f path := by
  induction texts with
  | nil => rfl
  | cons text texts ih =>
    rw [choose_cons, ih, List.filter_cons]
    by_cases h : text.isPrefixOf path
    · have hlen := (List.isPrefixOf_iff_prefix.1 h).length_le
      rw [if_pos h, if_pos h, drop_rowOf hlen, List.headD_eq_head?_getD, head?_rowOf, firstOf_cons]
      rfl
    · rw [if_neg h, if_neg h, Option.none_or]

theorem choiceRow_rowOf (texts : List (List Char)) (path : List Char) :
    choiceRow texts path (rowOf f path) =
      rowOf (fun tail => firstOf (texts.filter (·.isPrefixOf tail)) f tail) path := by
  induction path with
  | nil => simpa [choiceRow] using choose_rowOf (f := f) texts []
  | cons c path ih =>
    have hc := choose_rowOf (f := f) texts (c :: path)
    rw [rowOf_cons] at hc
    simp [choiceRow, hc, ih]

theorem runRow_rowOf (stop : Char) (path : List Char) :
    runRow stop path (rowOf f path) = rowOf (fun tail => firstOf (runs stop tail) f tail) path := by
  induction path with
  | nil => simp [runRow, runs, firstOf_nil]
  | cons c path ih =>
    simp only [rowOf_cons, runRow, ih, runs, firstOf_append, firstOf_nil]
    by_cases hc : c = stop
    · simp [hc, firstOf]
    · simp [hc, firstOf_map_cons]

theorem atLeastOne_rowOf (stop : Char) (path : List Char) :
    atLeastOne stop path (rowOf (fun tail => firstOf (runs stop tail) f tail) path) =
      rowOf (fun tail => firstOf ((runs stop tail).filter (· ≠ [])) f tail) path := by
  simp only [atLeastOne]
  induction path with
  | nil => simp [runs, firstOf]
  | cons c path ih =>
    rw [rowOf_cons, rowOf_cons, runs_filter_nonempty, ← ih]
    cases path with
    | nil => by_cases hc : c = stop <;> simp [hc, firstOf_map_cons]
    | cons d path => by_cases hc : c = stop <;> simp [hc, firstOf_map_cons]

theorem slashRow_rowOf (path : List Char) :
    slashRow path (rowOf f path) = rowOf (fun tail => firstOf (slashRuns tail) f tail) path := by
  induction path with
  | nil => simp [slashRow, slashRuns, runs]
  | cons c path ih =>
    simp only [rowOf_cons, slashRow, ih, slashRuns_cons, firstOf_append]
    by_cases hline : c = '\n'
    · simp [hline]
    · by_cases hslash : c = '/'
      · simp [hslash, firstOf_map_cons, firstOf_cons]
      · simp [hline, hslash, firstOf_map_cons]

theorem zipWith_rowOf (g h : List Char → Option Cut)
    (combine : Option Cut → Option Cut → Option Cut) (path : List Char) :
    List.zipWith combine (rowOf g path) (rowOf h path) =
      rowOf (fun tail => combine (g tail) (h tail)) path := by
  induction path with
  | nil => simp
  | cons c path ih => simp [ih]

theorem partRow_rowOf (part : Part) (path : List Char) :
    partRow part path (rowOf f path) =
      rowOf (fun tail => firstOf (part.pieces tail) f tail) path := by
  cases part with
  | literal text => exact choiceRow_rowOf [text] path
  | parameter => simp only [partRow, runRow_rowOf, atLeastOne_rowOf, Part.pieces]
  | wildcard => exact runRow_rowOf '\n' path
  | withinSegment => exact runRow_rowOf '/' path
  | withinLine => exact runRow_rowOf '\n' path
  | directories =>
    simp only [partRow, slashRow_rowOf, zipWith_rowOf, Part.pieces, firstOf_append, firstOf_nil]
  | oneOf alternatives => exact choiceRow_rowOf alternatives path

theorem row_eq (e : Expression) (path : List Char) :
    row e path = rowOf (fun tail => (cuts e tail).head?) path := by
  induction e with
  | nil =>
    induction path with
    | nil => simp [row, cuts]
    | cons c path ih =>
      simp only [row, List.map_cons, List.cons_append, rowOf_cons, cuts] at ih ⊢
      rw [← ih]
      simp
  | cons part e ih =>
    simp only [row, ih, partRow_rowOf, cuts_head?]

/-- The best cut is the first one that is tried with success. -/
theorem cut?_eq (e : Expression) (path : List Char) : cut? e path = (cuts e path).head? := by
  simp [cut?, row_eq]

theorem cuts_of_cut? {e : Expression} {path : List Char} {pieces : Cut}
    (h : cut? e path = some pieces) : Cuts e path pieces := by
  rw [cut?_eq] at h
  exact mem_cuts.1 (List.mem_of_mem_head? h)

/-- A path is matched as soon as it can be cut at all. -/
theorem isMatch_iff {e : Expression} {path : List Char} :
    isMatch e path = true ↔ ∃ pieces, Cuts e path pieces := by
  simp only [isMatch, cut?_eq, List.isSome_head?, ← mem_cuts]
  exact ⟨List.exists_mem_of_ne_nil _, fun ⟨_, h⟩ => List.ne_nil_of_mem h⟩

def captured (e : Expression) (pieces : Cut) : Cut :=
  ((e.zip pieces).filter (·.1.isCaptured)).map (·.2)

theorem captured_cons (part : Part) (e : Expression) (piece : List Char) (pieces : Cut) :
    captured (part :: e) (piece :: pieces) =
      if part.isCaptured then piece :: captured e pieces else captured e pieces := by
  by_cases h : part.isCaptured <;> simp [captured, h]

theorem captures?_eq (e : Expression) (path : List Char) :
    captures? e path = (cut? e path).map (captured e) := rfl

/-- Literals and captured parts only. -/
def IsPattern (e : Expression) : Prop :=
  ∀ part ∈ e, part.isCaptured = true ∨ ∃ text, part = .literal text

def capturedLengths (e : Expression) (pieces : Cut) : List Nat :=
  (captured e pieces).map List.length

theorem capturedLengths_cons (part : Part) (e : Expression) (piece : List Char) (pieces : Cut) :
    capturedLengths (part :: e) (piece :: pieces) =
      if part.isCaptured then piece.length :: capturedLengths e pieces
      else capturedLengths e pieces := by
  rw [capturedLengths, captured_cons]
  split <;> rfl

end Expression

theorem pairwise_runs (stop : Char) (path : List Char) :
    (runs stop path).Pairwise fun longer shorter => shorter.length < longer.length := by
  induction path with
  | nil => simp [runs]
  | cons c path ih =>
    by_cases hc : c = stop
    · simp [runs, hc]
    · simp only [runs, if_neg hc, List.pairwise_append, List.pairwise_map, List.length_cons]
      simp [ih]

/-- A captured part tries longer pieces before shorter ones. -/
theorem Part.pairwise_pieces {part : Part} (hpart : part.isCaptured = true) (path : List Char) :
    (part.pieces path).Pairwise fun longer shorter => shorter.length < longer.length := by
  cases part with
  | parameter => exact (pairwise_runs '/' path).filter _
  | wildcard => exact pairwise_runs '\n' path
  | literal text => simp [isCaptured] at hpart
  | withinSegment => simp [isCaptured] at hpart
  | withinLine => simp [isCaptured] at hpart
  | directories => simp [isCaptured] at hpart
  | oneOf alternatives => simp [isCaptured] at hpart

namespace Expression

theorem firstOf_eq_some {pieces : List (List Char)} {f : List Char → Option Cut}
    {path : List Char} {cut : Cut} (h : firstOf pieces f path = some cut) :
    ∃ before piece after rest, pieces = before ++ piece :: after ∧ cut = piece :: rest ∧
      f (path.drop piece.length) = some rest ∧ ∀ earlier ∈ before,
        f (path.drop earlier.length) = none := by
  obtain ⟨before, piece, after, rfl, hpiece, hbefore⟩ := List.findSome?_eq_some_iff.1 h
  obtain ⟨rest, hrest, rfl⟩ := Option.map_eq_some_iff.1 hpiece
  exact ⟨before, piece, after, rest, rfl, rfl, hrest,
    fun earlier hmem => by simpa using hbefore earlier hmem⟩

/-- Any other cut captures less at the first place where the two differ. -/
theorem eq_or_capturedLengths_lt {e : Expression} (he : e.IsPattern) {path : List Char}
    {best other : Cut} (hbest : cut? e path = some best) (hother : Cuts e path other) :
    other = best ∨ capturedLengths e other < capturedLengths e best := by
  induction e generalizing path best other with
  | nil =>
    have hcut := cuts_of_cut? hbest
    exact .inl (hother.2.trans hcut.2.symm)
  | cons part e ih =>
    rw [cut?_eq, cuts_head?] at hbest
    obtain ⟨before, piece, after, rest, hpieces, rfl, hrest, hbefore⟩ := firstOf_eq_some hbest
    rw [← cut?_eq] at hrest
    cases other with
    | nil => exact absurd hother id
    | cons piece' rest' =>
      obtain ⟨tail, rfl, hadmits, htail⟩ := hother
      have hmem : piece' ∈ before ++ piece :: after :=
        hpieces ▸ Part.mem_pieces.2 ⟨hadmits, List.prefix_append piece' tail⟩
      -- The same piece in front: the cuts differ further on, if at all.
      have hsame (hpiece : piece' = piece) : piece' :: rest' = piece :: rest ∨
          capturedLengths (part :: e) (piece' :: rest') <
            capturedLengths (part :: e) (piece :: rest) := by
        subst hpiece
        rw [List.drop_left] at hrest
        rcases ih (fun p hp => he p (List.mem_cons_of_mem _ hp)) hrest htail with rfl | hlt
        · exact .inl rfl
        · right
          rw [capturedLengths_cons, capturedLengths_cons]
          split
          · exact List.cons_lt_cons_iff.2 (.inr ⟨rfl, hlt⟩)
          · exact hlt
      rcases he part List.mem_cons_self with hcaptured | ⟨text, rfl⟩
      · have hpairwise := Part.pairwise_pieces hcaptured (piece' ++ tail)
        rw [hpieces, List.pairwise_append] at hpairwise
        rcases List.mem_append.1 hmem with hearlier | hlater
        · have hnone := hbefore piece' hearlier
          rw [List.drop_left, List.head?_eq_none_iff] at hnone
          exact absurd (mem_cuts.2 htail) (hnone ▸ List.not_mem_nil)
        · rcases List.mem_cons.1 hlater with hpiece | hafter
          · exact hsame hpiece
          · right
            rw [capturedLengths_cons, capturedLengths_cons, if_pos hcaptured, if_pos hcaptured]
            exact List.cons_lt_cons_iff.2
              (.inl ((List.pairwise_cons.1 hpairwise.2.1).1 piece' hafter))
      · have hpiece : piece ∈ (Part.literal text).pieces (piece' ++ tail) := by simp [hpieces]
        exact hsame (hadmits.trans (Part.mem_pieces.1 hpiece).1.symm)

end Expression

end EdgeRouting
