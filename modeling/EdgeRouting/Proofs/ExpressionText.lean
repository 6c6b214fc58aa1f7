import EdgeRouting.Proofs.CutOrder
import EdgeRouting.Proofs.Regex

/-!
# The written form of an expression

`Expression.regex` is the regular expression that the text of an expression reads as: literal text
becomes one character after another, and the captured parts are numbered from one. Its matches are
the cuts of the path, in the same order, so a search finds the best cut and its groups hold the
captured pieces.
-/

namespace EdgeRouting

namespace Regex

def choice : List Regex → Regex
  | [] => empty
  | first :: later => later.foldl either first

end Regex

namespace Part

/-- What the text of a part reads as; `index` is the number of the next group that captures. -/
def items (index : Nat) : Part → List Regex
  | .literal text => text.map .char
  | .parameter => [.group (some index) (.sequence [.plus (.anyBut '/')])]
  | .wildcard => [.group (some index) (.sequence [.star (.anyBut '\n')])]
  | .withinSegment => [.star (.anyBut '/')]
  | .withinLine => [.star (.anyBut '\n')]
  | .directories => [.optional (.group none (.sequence [.star (.anyBut '\n'), .char '/']))]
  | .oneOf alternatives => [.group none (.choice (alternatives.map .literal))]

def groupCount (part : Part) : Nat :=
  if part.isCaptured then 1 else 0

end Part

namespace Expression

def items (index : Nat) : Expression → List Regex
  | [] => []
  | part :: e => part.items index ++ items (index + part.groupCount) e

def regex (e : Expression) : Regex :=
  .sequence (.atStart :: (items 1 e ++ [.atEnd]))

def HasAlternatives (e : Expression) : Prop :=
  .oneOf [] ∉ e

end Expression

namespace Regex

namespace Place

@[simp] theorem advance_rest (p : Place) (n : Nat) : (p.advance n).rest = p.rest.drop n := rfl

@[simp] theorem advance_position (p : Place) (n : Nat) :
    (p.advance n).position = p.position + n := rfl

@[simp] theorem advance_groups (p : Place) (n : Nat) : (p.advance n).groups = p.groups := rfl

@[simp] theorem advance_zero (p : Place) : p.advance 0 = p := rfl

@[simp] theorem advance_advance (p : Place) (m n : Nat) :
    (p.advance m).advance n = p.advance (m + n) := by
  simp [advance, Nat.add_assoc]

@[simp] theorem capture_rest (p : Place) (index : Option Nat) (piece : List Char) :
    (p.capture index piece).rest = p.rest := by
  cases index <;> rfl

theorem advance_capture (p : Place) (n : Nat) (index : Option Nat) (piece : List Char) :
    (p.capture index piece).advance n = (p.advance n).capture index piece := by
  cases index <;> rfl

def captureFrom (p : Place) (index : Nat) : List (List Char) → Place
  | [] => p
  | piece :: pieces => (p.capture (some index) piece).captureFrom (index + 1) pieces

@[simp] theorem captureFrom_rest (p : Place) (index : Nat) (pieces : List (List Char)) :
    (p.captureFrom index pieces).rest = p.rest := by
  induction pieces generalizing p index with
  | nil => rfl
  | cons piece pieces ih => rw [captureFrom, ih, capture_rest]

theorem advance_captureFrom (p : Place) (n index : Nat) (pieces : List (List Char)) :
    (p.captureFrom index pieces).advance n = (p.advance n).captureFrom index pieces := by
  induction pieces generalizing p index with
  | nil => rfl
  | cons piece pieces ih => rw [captureFrom, ih, advance_capture, captureFrom]

theorem captureFrom_append (p : Place) (index : Nat) (pieces more : List (List Char)) :
    p.captureFrom index (pieces ++ more) =
      (p.captureFrom index pieces).captureFrom (index + pieces.length) more := by
  induction pieces generalizing p index with
  | nil => rfl
  | cons piece pieces ih =>
    rw [List.cons_append, captureFrom, ih, captureFrom, List.length_cons, Nat.add_assoc,
      Nat.add_comm 1]

theorem captureFrom_groups (p : Place) (index : Nat) (pieces : List (List Char)) (n : Nat) :
    (p.captureFrom index pieces).groups n =
      if index ≤ n then pieces[n - index]?.or (p.groups n) else p.groups n := by
  induction pieces generalizing p index with
  | nil => simp [captureFrom]
  | cons piece pieces ih =>
    rw [captureFrom, ih]
    by_cases hlt : index + 1 ≤ n
    · obtain ⟨k, rfl⟩ := Nat.exists_eq_add_of_le hlt
      have hk : index + 1 + k - index = k + 1 := by omega
      simp [capture, hk, show index ≤ index + 1 + k by omega, show index + 1 + k ≠ index by omega]
    · by_cases heq : n = index
      · subst heq
        rw [if_neg hlt]
        simp [capture]
      · simp [capture, hlt, heq, show ¬ index ≤ n by omega]

end Place

theorem matchesFrom_anyBut_nil {p : Place} {stop : Char} (h : p.rest = []) :
    matchesFrom (.anyBut stop) p = [] := by
  simp [matchesFrom, h]

theorem matchesFrom_anyBut_cons {p : Place} {stop c : Char} {rest : List Char}
    (h : p.rest = c :: rest) :
    matchesFrom (.anyBut stop) p = if c = stop then [] else [p.advance 1] := by
  by_cases hc : c = stop <;> simp [matchesFrom, h, hc]

theorem repeated_anyBut (stop : Char) (fuel : Nat) (p : Place) (h : p.rest.length ≤ fuel) :
    repeated (matchesFrom (.anyBut stop)) fuel p =
      (runs stop p.rest).map fun piece => p.advance piece.length := by
  induction fuel generalizing p with
  | zero =>
    have hrest : p.rest = [] := List.length_eq_zero_iff.1 (Nat.le_zero.1 h)
    simp [repeated, hrest, runs]
  | succ fuel ih =>
    cases hrest : p.rest with
    | nil => simp [repeated, matchesFrom_anyBut_nil hrest, runs]
    | cons c rest =>
      rw [repeated, matchesFrom_anyBut_cons hrest, runs]
      by_cases hc : c = stop
      · simp [hc]
      · have hstep := ih (p.advance 1) (by simp [hrest] at h ⊢; exact h)
        simp only [Place.advance_rest, hrest, List.drop_one, List.tail_cons] at hstep
        simp [hc, hstep, Function.comp_def, Nat.add_comm]

theorem matchesFrom_star (stop : Char) (p : Place) :
    matchesFrom (.star (.anyBut stop)) p =
      (runs stop p.rest).map fun piece => p.advance piece.length :=
  repeated_anyBut stop p.rest.length p le_rfl

theorem matchesFrom_plus (stop : Char) (p : Place) :
    matchesFrom (.plus (.anyBut stop)) p =
      ((runs stop p.rest).filter (· ≠ [])).map fun piece => p.advance piece.length := by
  cases hrest : p.rest with
  | nil => simp [matchesFrom, hrest, runs]
  | cons c rest =>
    rw [matchesFrom, matchesFrom_anyBut_cons hrest, runs_filter_nonempty]
    by_cases hc : c = stop
    · simp [hc]
    · have hstep := repeated_anyBut stop (p.advance 1).rest.length (p.advance 1) le_rfl
      simp only [Place.advance_rest, hrest, List.drop_one, List.tail_cons] at hstep
      simp [hc, hrest, hstep, Function.comp_def, Nat.add_comm]

theorem matchesFrom_literal (text : List Char) (p : Place) :
    matchesFrom (.literal text) p = if text.isPrefixOf p.rest then
      [p.advance text.length] else [] := by
  induction text generalizing p with
  | nil => simp [literal, sequence, matchesFrom]
  | cons c text ih =>
    have hcons : matchesFrom (.literal (c :: text)) p =
        (matchesFrom (.char c) p).flatMap (matchesFrom (.literal text)) := rfl
    rw [hcons]
    cases hrest : p.rest with
    | nil => simp [matchesFrom, hrest]
    | cons d rest =>
      by_cases hc : d = c
      · simp [matchesFrom, hrest, hc, ih, Nat.add_comm]
      · simp [matchesFrom, hrest, hc, Ne.symm hc]

theorem matchesFrom_foldl_either (first : Regex) (later : List Regex) (p : Place) :
    matchesFrom (later.foldl either first) p =
      matchesFrom first p ++ later.flatMap (matchesFrom · p) := by
  induction later generalizing first with
  | nil => simp
  | cons next later ih => simp [ih, matchesFrom]

theorem matchesFrom_choice {alternatives : List (List Char)} (h : alternatives ≠ []) (p : Place) :
    matchesFrom (.choice (alternatives.map .literal)) p =
      (alternatives.filter (·.isPrefixOf p.rest)).map fun piece => p.advance piece.length := by
  have heach (texts : List (List Char)) :
      (texts.map Regex.literal).flatMap (matchesFrom · p) =
        (texts.filter (·.isPrefixOf p.rest)).map fun piece => p.advance piece.length := by
    induction texts with
    | nil => rfl
    | cons text texts ih =>
      rw [List.map_cons, List.flatMap_cons, ih, matchesFrom_literal, List.filter_cons]
      by_cases ht : text.isPrefixOf p.rest
      · rw [if_pos ht, if_pos ht]
        rfl
      · rw [if_neg ht, if_neg ht]
        rfl
  obtain ⟨first, later, rfl⟩ := List.exists_cons_of_ne_nil h
  rw [← heach, List.map_cons, choice, matchesFrom_foldl_either]
  rfl

theorem matchesFrom_slashRuns (p : Place) :
    matchesFrom (.sequence [.star (.anyBut '\n'), .char '/']) p =
      (slashRuns p.rest).map fun piece => p.advance piece.length := by
  have heach (texts : List (List Char)) (h : ∀ names ∈ texts, names <+: p.rest) :
      (texts.map fun piece => p.advance piece.length).flatMap (matchesFrom (.char '/')) =
        ((texts.map (· ++ ['/'])).filter (·.isPrefixOf p.rest)).map
          fun piece => p.advance piece.length := by
    induction texts with
    | nil => rfl
    | cons names texts ih =>
      obtain ⟨rest, hrest⟩ := h names (by simp)
      have hcons := ih fun other hother => h other (by simp [hother])
      have hhead : (names ++ ['/']).isPrefixOf p.rest = true ↔
          (p.advance names.length).rest.head? = some '/' := by
        rw [List.isPrefixOf_iff_prefix, Place.advance_rest, ← hrest, List.prefix_append_right_inj,
          List.drop_left]
        cases rest <;> simp [eq_comm]
      rw [List.map_cons, List.flatMap_cons, hcons, List.map_cons, List.filter_cons, matchesFrom]
      by_cases hs : (p.advance names.length).rest.head? = some '/'
      · rw [if_pos hs, if_pos (hhead.2 hs)]
        simp
      · rw [if_neg hs, if_neg (mt hhead.1 hs)]
        rfl
  have hseq : matchesFrom (.sequence [.star (.anyBut '\n'), .char '/']) p =
      (matchesFrom (.star (.anyBut '\n')) p).flatMap (matchesFrom (.char '/')) := by
    simp [sequence, matchesFrom]
  rw [hseq, matchesFrom_star, heach _ fun names hnames => (mem_runs.1 hnames).2]
  rfl

theorem matchesFrom_group {index : Option Nat} {body : Regex} {p : Place}
    {pieces : List (List Char)}
    (hbody : matchesFrom body p = pieces.map fun piece => p.advance piece.length)
    (hpieces : ∀ piece ∈ pieces, piece <+: p.rest) :
    matchesFrom (.group index body) p =
      pieces.map fun piece => (p.advance piece.length).capture index piece := by
  rw [matchesFrom, hbody, List.map_map]
  apply List.map_congr_left
  intro piece hpiece
  obtain ⟨rest, hrest⟩ := hpieces piece hpiece
  simp [← hrest]

end Regex

open Regex

/-- The matches of a part are the pieces it may take, captured if the part is. -/
theorem Part.matchesFrom_items {part : Part} (hpart : part ≠ .oneOf []) (index : Nat) (p : Place) :
    matchesFrom (.sequence (part.items index)) p = (part.pieces p.rest).map fun piece =>
      (p.advance piece.length).captureFrom index (if part.isCaptured then [piece] else []) := by
  have hprefix : ∀ piece ∈ part.pieces p.rest, piece <+: p.rest := fun piece h => (mem_pieces.1 h).2
  cases part with
  | literal text =>
    refine (matchesFrom_literal text p).trans ?_
    by_cases h : text.isPrefixOf p.rest
    · simp [pieces, h, isCaptured, Place.captureFrom]
    · simp [pieces, h]
  | parameter =>
    rw [items, matchesFrom_sequence_singleton]
    refine matchesFrom_group ?_ hprefix
    rw [matchesFrom_sequence_singleton, matchesFrom_plus, pieces]
  | wildcard =>
    rw [items, matchesFrom_sequence_singleton]
    refine matchesFrom_group ?_ hprefix
    rw [matchesFrom_sequence_singleton, matchesFrom_star, pieces]
  | withinSegment => rw [items, matchesFrom_sequence_singleton, matchesFrom_star]; rfl
  | withinLine => rw [items, matchesFrom_sequence_singleton, matchesFrom_star]; rfl
  | directories =>
    have hgroup :=
      @matchesFrom_group none _ _ _ (matchesFrom_slashRuns p) fun piece h => (mem_slashRuns.1 h).2
    rw [items, matchesFrom_sequence_singleton, matchesFrom, hgroup, pieces, List.map_append]
    rfl
  | oneOf alternatives =>
    have halternatives : alternatives ≠ [] := fun h => hpart (congrArg Part.oneOf h)
    rw [items, matchesFrom_sequence_singleton,
      matchesFrom_group (matchesFrom_choice halternatives p) hprefix]
    rfl

namespace Expression

/-- The place behind a cut of the rest of a text. -/
def endOf (index : Nat) (p : Place) (e : Expression) (pieces : Cut) : Place :=
  (p.advance p.rest.length).captureFrom index (captured e pieces)

theorem matchesFrom_items {e : Expression} (he : e.HasAlternatives) (index : Nat) (p : Place) :
    matchesFrom (.sequence (items index e ++ [.atEnd])) p =
      (cuts e p.rest).map (endOf index p e) := by
  induction e generalizing index p with
  | nil =>
    rw [items, List.nil_append, matchesFrom_sequence_singleton, matchesFrom, cuts]
    split
    · rename_i hrest
      simp [endOf, hrest, captured, Place.captureFrom]
    · rfl
  | cons part e ih =>
    have hpart : part ≠ .oneOf [] := fun h => he (by simp [h])
    have he' : HasAlternatives e := fun h => he (List.mem_cons_of_mem _ h)
    rw [items, List.append_assoc, matchesFrom_sequence_append, Part.matchesFrom_items hpart, cuts,
      List.flatMap_map, List.map_flatMap]
    apply List.flatMap_congr
    intro piece hpiece
    have hlen := (Part.mem_pieces.1 hpiece).2.length_le
    have hnumber : (if part.isCaptured then [piece] else []).length = part.groupCount := by
      rw [Part.groupCount]
      split <;> rfl
    rw [ih he', Place.captureFrom_rest, Place.advance_rest, List.map_map]
    apply List.map_congr_left
    intro pieces _
    have hcaptured : captured (part :: e) (piece :: pieces) =
        (if part.isCaptured then [piece] else []) ++ captured e pieces := by
      rw [captured_cons]
      split <;> rfl
    rw [Function.comp_apply, endOf, endOf, hcaptured, Place.captureFrom_append, hnumber,
      Place.captureFrom_rest, Place.advance_captureFrom, Place.advance_advance, Place.advance_rest,
      List.length_drop, Nat.add_sub_cancel' hlen]

/-- A search with the regular expression of an expression finds the best cut. -/
theorem search_regex {e : Expression} (he : e.HasAlternatives) (path : List Char) :
    e.regex.search path = (cut? e path).map (endOf 1 (.start 0 path) e) := by
  rw [regex, search_anchored, matchesFrom_items he, List.head?_map, cut?_eq]
  rfl

/-- The groups of a match hold the captured pieces, from group one on. -/
theorem endOf_groups (path : List Char) (e : Expression) (pieces : Cut) (slot : Nat) :
    (endOf 1 (.start 0 path) e pieces).groups (slot + 1) = (captured e pieces)[slot]? := by
  rw [endOf, Place.captureFrom_groups, if_pos (Nat.le_add_left 1 slot)]
  simp [Place.start]

end Expression

namespace Regex

variable {r : Reading} {rest : List Char}

theorem operators_eq_escapable : Part.operators = escapable := rfl

theorem metacharacters_subset_operators : metacharacters ⊆ Part.operators :=
  List.subset_append_left metacharacters _

def Reading.pushAll (r : Reading) (items : List Regex) : Reading :=
  items.foldl Reading.push r

theorem Reading.pushAll_cons (item : Regex) (items : List Regex) :
    r.pushAll (item :: items) = (r.push item).pushAll items := rfl

theorem readFrom_escape (text : List Char) :
    readFrom r (Part.escape text ++ rest) = readFrom (r.pushAll (text.map .char)) rest := by
  induction text generalizing r with
  | nil => rfl
  | cons c text ih =>
    rw [Part.escape, List.flatMap_cons, List.append_assoc, List.map_cons,
      Reading.pushAll_cons, ← ih]
    by_cases hc : c ∈ Part.operators
    · rw [if_pos hc]
      exact readFrom_escaped (operators_eq_escapable ▸ hc) r _
    · rw [if_neg hc]
      exact readFrom_plain (fun h => hc (metacharacters_subset_operators h)) r _

theorem Reading.pushAll_eq (items : List Regex) :
    r.pushAll items =
      { r with inner := { r.inner with items := items.reverse ++ r.inner.items } } := by
  induction items generalizing r with
  | nil => rfl
  | cons item items ih =>
    rw [pushAll_cons, ih]
    simp [push, OpenGroup.push]

theorem OpenGroup.body_literal (index : Option Nat) (done : Option Regex) (text : List Char) :
    OpenGroup.body ⟨index, done, (text.map .char).reverse⟩ =
      match done with
      | none => .literal text
      | some done => .either done (.literal text) := by
  cases done <;> simp [body, branch, literal]

/-- Alternatives are read one after another, up to the bracket that closes their group. -/
theorem readFrom_alternatives (done : Option Regex) (g : OpenGroup) (outer : List OpenGroup)
    (numbered : Nat) (first : List Char) (later : List (List Char)) :
    readFrom ⟨⟨none, done, []⟩, g :: outer, numbered⟩
        (['|'].intercalate ((first :: later).map Part.escape) ++ ')' :: rest) =
      readFrom ⟨g.push (.group none ((later.map literal).foldl either
        (match done with | none => .literal first | some done => .either done (.literal first)))),
        outer, numbered⟩ rest := by
  induction later generalizing done first with
  | nil =>
    rw [List.map_singleton, List.intercalate_singleton, readFrom_escape, Reading.pushAll_eq]
    simp only [List.append_nil, readFrom, Reading.leave?, OpenGroup.body_literal]
    rfl
  | cons next later ih =>
    rw [List.map_cons, List.map_cons, List.intercalate_cons_cons, List.append_assoc,
      List.append_assoc, readFrom_escape, Reading.pushAll_eq, ← List.map_cons]
    simp only [List.append_nil, List.singleton_append, readFrom, Reading.bar, OpenGroup.bar,
      OpenGroup.body_literal]
    rw [ih]
    rfl

def Reading.afterPart (r : Reading) (part : Part) : Reading :=
  { r.pushAll (part.items (r.numbered + 1)) with numbered := r.numbered + part.groupCount }

theorem readFrom_part (part : Part) :
    readFrom r (part.text ++ rest) = readFrom (r.afterPart part) rest := by
  cases part with
  | literal text =>
    have htext : (Part.literal text).text = Part.escape text := rfl
    rw [htext, readFrom_escape]
    simp [Reading.afterPart, Part.items, Part.groupCount, Part.isCaptured, Reading.pushAll_eq]
  | parameter =>
    have htext : Part.parameter.text ++ rest =
        '(' :: '[' :: '^' :: '/' :: ']' :: '+' :: ')' :: rest := rfl
    rw [htext, readFrom_numbered (by simp)]
    simp only [readFrom]
    rfl
  | wildcard =>
    have htext : Part.wildcard.text ++ rest = '(' :: '.' :: '*' :: ')' :: rest := rfl
    rw [htext, readFrom_numbered (by simp)]
    simp only [readFrom]
    rfl
  | withinSegment =>
    have htext : Part.withinSegment.text ++ rest = '[' :: '^' :: '/' :: ']' :: '*' :: rest := rfl
    rw [htext]
    simp only [readFrom]
    rfl
  | withinLine =>
    have htext : Part.withinLine.text ++ rest = '.' :: '*' :: rest := rfl
    rw [htext]
    simp only [readFrom]
    rfl
  | directories =>
    have htext : Part.directories.text ++ rest =
        '(' :: '?' :: ':' :: '.' :: '*' :: '/' :: ')' :: '?' :: rest := rfl
    rw [htext]
    simp only [readFrom]
    rfl
  | oneOf alternatives =>
    have htext : (Part.oneOf alternatives).text ++ rest =
        '(' :: '?' :: ':' :: (['|'].intercalate (alternatives.map Part.escape) ++ ')' :: rest) := by
      have hopen : (Part.oneOf alternatives).text =
          '(' :: '?' :: ':' :: (['|'].intercalate (alternatives.map Part.escape) ++ [')']) := rfl
      simp [hopen]
    rw [htext]
    cases alternatives with
    | nil => rfl
    | cons first later => exact readFrom_alternatives none r.inner r.outer r.numbered first later

theorem readFrom_parts (e : Expression) (items : List Regex) (numbered : Nat) :
    readFrom { inner := { items }, numbered } (e.flatMap Part.text ++ rest) =
      readFrom { inner := { items := (e.items (numbered + 1)).reverse ++ items },
                 numbered := e.foldl (fun n part => n + part.groupCount) numbered } rest := by
  induction e generalizing items numbered with
  | nil => rfl
  | cons part e ih =>
    have hafter : Reading.afterPart { inner := { items }, numbered } part =
        { inner := { items := (part.items (numbered + 1)).reverse ++ items },
          numbered := numbered + part.groupCount } := by
      simp [Reading.afterPart, Reading.pushAll_eq]
    have hnumber : numbered + part.groupCount + 1 = numbered + 1 + part.groupCount := by omega
    rw [List.flatMap_cons, List.append_assoc, readFrom_part, hafter, ih, hnumber, Expression.items,
      List.reverse_append, List.append_assoc, List.foldl_cons]

end Regex

/-- Every character of the text is read as what it was written for. -/
theorem Expression.read?_text (e : Expression) : Regex.read? e.text.toList = some e.regex := by
  have htext : e.text.toList = '^' :: (e.flatMap Part.text ++ ['$']) := by
    simp [Expression.text]
  have hstart : Regex.readFrom {} ('^' :: (e.flatMap Part.text ++ ['$'])) =
      Regex.readFrom { inner := { items := [.atStart] }, numbered := 0 }
        (e.flatMap Part.text ++ ['$']) := by
    simp only [Regex.readFrom]
    rfl
  rw [htext, Regex.read?, hstart, readFrom_parts]
  simp [Regex.readFrom, Regex.Reading.push, Regex.OpenGroup.push, Regex.Reading.finish?,
    Regex.OpenGroup.body, Regex.OpenGroup.branch, Expression.regex]

end EdgeRouting
