import Mathlib.Data.List.Infix

/-!
# Texts between marks

A mark is a `start` character with a text that may follow it. Pieces that hold no mark, each but the
first of them beginning with one, are read back from the text that they make together. A separator
is a mark that nothing follows.
-/

namespace EdgeRouting

variable {start separator : Char} {follows : List Char → Prop}

/-- No mark stands anywhere in the text. -/
def Unmarked (start : Char) (follows : List Char → Prop) (text : List Char) : Prop :=
  ∀ after, follows after → ¬ start :: after <:+: text

def AtMark (start : Char) (follows : List Char → Prop) (text : List Char) : Prop :=
  text = [] ∨ ∃ after, follows after ∧ start :: after <+: text

theorem atMark_nil : AtMark start follows [] := .inl rfl

theorem unmarked_of_notMem {text : List Char} (h : start ∉ text) : Unmarked start follows text := by
  intro after _ hwithin
  exact h (hwithin.subset List.mem_cons_self)

/-- What has no separator in it cannot reach across one. -/
theorem prefix_of_prefix_append_cons {mark before after : List Char} (hmark : separator ∉ mark)
    (h : mark <+: before ++ separator :: after) : mark <+: before := by
  induction mark generalizing before with
  | nil => exact List.nil_prefix
  | cons c mark ih =>
    have hc : c ≠ separator := fun heq => hmark (heq ▸ List.mem_cons_self)
    cases before with
    | nil => exact absurd (List.cons_prefix_cons.1 h).1 hc
    | cons d before =>
      obtain ⟨rfl, hrest⟩ := List.cons_prefix_cons.1 h
      have hrest' := ih (fun hmem => hmark (List.mem_cons_of_mem _ hmem)) hrest
      exact List.cons_prefix_cons.2 ⟨rfl, hrest'⟩

theorem infix_or_of_infix_append_cons {c : Char} {mark before after : List Char}
    (hmark : separator ∉ c :: mark) (h : c :: mark <:+: before ++ separator :: after) :
    c :: mark <:+: before ∨ c :: mark <:+: after := by
  induction before with
  | nil =>
    rcases List.infix_cons_iff.1 h with hprefix | hwithin
    · have hnil : c :: mark <+: [] := prefix_of_prefix_append_cons hmark hprefix
      exact absurd hnil (by simp)
    · exact .inr hwithin
  | cons d before ih =>
    rcases List.infix_cons_iff.1 h with hprefix | hwithin
    · have hhere : c :: mark <+: d :: before := prefix_of_prefix_append_cons hmark hprefix
      exact .inl hhere.isInfix
    · rcases ih hwithin with hbefore | hafter
      · exact .inl (hbefore.trans (List.suffix_cons d before).isInfix)
      · exact .inr hafter

/-- A mark does not begin in a text without its start character. -/
theorem infix_of_infix_append {c : Char} {mark before after : List Char} (hc : c ∉ before)
    (h : c :: mark <:+: before ++ after) : c :: mark <:+: after := by
  induction before with
  | nil => exact h
  | cons d before ih =>
    rcases List.infix_cons_iff.1 h with hprefix | hwithin
    · obtain ⟨rfl, -⟩ := List.cons_prefix_cons.1 hprefix
      exact absurd List.mem_cons_self hc
    · exact ih (fun hmem => hc (List.mem_cons_of_mem _ hmem)) hwithin

theorem Unmarked.append_cons {before after : List Char}
    (hseparator : ∀ m, follows m → separator ∉ start :: m) (hbefore : Unmarked start follows before)
    (hafter : Unmarked start follows after) :
    Unmarked start follows (before ++ separator :: after) := by
  intro m hm hwithin
  rcases infix_or_of_infix_append_cons (hseparator m hm) hwithin with h | h
  · exact hbefore m hm h
  · exact hafter m hm h

theorem Unmarked.append_of_notMem {before after : List Char} (hbefore : start ∉ before)
    (hafter : Unmarked start follows after) : Unmarked start follows (before ++ after) := by
  intro m hm hwithin
  exact hafter m hm (infix_of_infix_append hbefore hwithin)

theorem Unmarked.intercalate {pieces : List (List Char)}
    (hseparator : ∀ m, follows m → separator ∉ start :: m)
    (h : ∀ piece ∈ pieces, Unmarked start follows piece) :
    Unmarked start follows ([separator].intercalate pieces) := by
  induction pieces with
  | nil => exact unmarked_of_notMem List.not_mem_nil
  | cons piece pieces ih =>
    have hpiece := h piece List.mem_cons_self
    have hpieces := ih fun p hp => h p (List.mem_cons_of_mem _ hp)
    cases pieces with
    | nil => rwa [List.intercalate_singleton]
    | cons next pieces =>
      rw [List.intercalate_cons_cons, List.append_assoc, List.singleton_append]
      exact hpiece.append_cons hseparator hpieces

/-- Of two readings neither goes on where the other one stops. The start character, which stands
once in a mark, rules out that a mark is cut in two. -/
theorem eq_nil_of_unmarked_append (hstart : ∀ m, follows m → start ∉ m)
    {text more rest rest' : List Char} (htext : Unmarked start follows (text ++ more))
    (hrest : AtMark start follows rest) (hrest' : AtMark start follows rest')
    (h : rest = more ++ rest') : more = [] := by
  by_contra hmore
  obtain ⟨c, more', rfl⟩ := List.exists_cons_of_ne_nil hmore
  rcases hrest with hnil | ⟨m, hm, hprefix⟩
  · rw [hnil] at h
    cases h
  rw [h] at hprefix
  rcases List.prefix_or_prefix_of_prefix hprefix (List.prefix_append (c :: more') rest')
    with hinside | hcut
  · have hwithin : start :: m <:+: text ++ c :: more' :=
      hinside.isInfix.trans (List.suffix_append _ _).isInfix
    exact htext m hm hwithin
  · -- The mark goes on behind `more`, so `rest'` begins inside of it.
    obtain ⟨rfl, tail, htail⟩ := List.cons_prefix_cons.1 hcut
    rw [← htail, List.cons_append] at hprefix
    have hrest₁ : tail <+: rest' :=
      (List.prefix_append_right_inj more').1 (List.cons_prefix_cons.1 hprefix).2
    rcases tail with _ | ⟨d, tail⟩
    · rw [List.append_nil] at htail
      subst htail
      exact htext more' hm (List.suffix_append _ _).isInfix
    rcases hrest' with hnil | ⟨m', -, hprefix'⟩
    · rw [hnil] at hrest₁
      exact absurd hrest₁ (by simp)
    · obtain ⟨more'', rfl⟩ := hrest₁
      obtain ⟨rfl, -⟩ := List.cons_prefix_cons.1 hprefix'
      exact hstart m hm (htail ▸ List.mem_append_right _ List.mem_cons_self)

theorem append_inj_of_unmarked (hstart : ∀ m, follows m → start ∉ m)
    {text text' rest rest' : List Char} (htext : Unmarked start follows text)
    (htext' : Unmarked start follows text') (hrest : AtMark start follows rest)
    (hrest' : AtMark start follows rest') (h : text ++ rest = text' ++ rest') :
    text = text' ∧ rest = rest' := by
  rcases List.append_eq_append_iff.1 h with ⟨more, rfl, heq⟩ | ⟨more, rfl, heq⟩
  · obtain rfl := eq_nil_of_unmarked_append hstart htext' hrest hrest' heq
    exact ⟨by rw [List.append_nil], heq⟩
  · obtain rfl := eq_nil_of_unmarked_append hstart htext hrest' hrest heq
    exact ⟨by rw [List.append_nil], heq.symm⟩

/-- A piece that begins as a mark goes on, and holds no mark itself. -/
structure Continues (start : Char) (follows : List Char → Prop) (piece : List Char) : Prop where
  unmarked : Unmarked start follows piece
  follows : ∃ m, follows m ∧ m <+: piece

theorem atMark_flatMap {pieces : List (List Char)}
    (h : ∀ piece ∈ pieces, Continues start follows piece) :
    AtMark start follows (pieces.flatMap (start :: ·)) := by
  cases pieces with
  | nil => exact atMark_nil
  | cons piece pieces =>
    obtain ⟨m, hm, hprefix⟩ := (h piece List.mem_cons_self).follows
    rw [List.flatMap_cons, List.cons_append]
    exact .inr ⟨m, hm, List.cons_prefix_cons.2 ⟨rfl, hprefix.trans (List.prefix_append _ _)⟩⟩

theorem flatMap_inj_of_continues (hstart : ∀ m, follows m → start ∉ m)
    {pieces pieces' : List (List Char)} (hpieces : ∀ piece ∈ pieces, Continues start follows piece)
    (hpieces' : ∀ piece ∈ pieces', Continues start follows piece)
    (h : pieces.flatMap (start :: ·) = pieces'.flatMap (start :: ·)) : pieces = pieces' := by
  induction pieces generalizing pieces' with
  | nil =>
    cases pieces' with
    | nil => rfl
    | cons piece' rest' => cases h
  | cons piece rest ih =>
    cases pieces' with
    | nil => cases h
    | cons piece' rest' =>
      have hrest : ∀ p ∈ rest, _ := fun p hp => hpieces p (List.mem_cons_of_mem _ hp)
      have hrest' : ∀ p ∈ rest', _ := fun p hp => hpieces' p (List.mem_cons_of_mem _ hp)
      rw [List.flatMap_cons, List.flatMap_cons, List.cons_append, List.cons_append] at h
      obtain ⟨rfl, hrests⟩ :=
        append_inj_of_unmarked hstart (hpieces piece List.mem_cons_self).unmarked
        (hpieces' piece' List.mem_cons_self).unmarked (atMark_flatMap hrest) (atMark_flatMap hrest')
        (List.cons.inj h).2
      rw [ih hrest hrest' hrests]

theorem intercalate_cons_eq (c : Char) (piece : List Char) (pieces : List (List Char)) :
    [c].intercalate (piece :: pieces) = piece ++ pieces.flatMap (c :: ·) := by
  induction pieces generalizing piece with
  | nil => rw [List.intercalate_singleton, List.flatMap_nil, List.append_nil]
  | cons next pieces ih =>
    rw [List.intercalate_cons_cons, ih, List.flatMap_cons, List.append_assoc, List.singleton_append,
      List.cons_append]

/-- Such pieces are read back from the text in which the start character joins them. -/
theorem intercalate_inj_of_continues (hstart : ∀ m, follows m → start ∉ m)
    {pieces pieces' : List (List Char)} (hne : pieces ≠ []) (hne' : pieces' ≠ [])
    (hpieces : ∀ piece ∈ pieces, Continues start follows piece)
    (hpieces' : ∀ piece ∈ pieces', Continues start follows piece)
    (h : [start].intercalate pieces = [start].intercalate pieces') : pieces = pieces' := by
  refine flatMap_inj_of_continues hstart hpieces hpieces' ?_
  obtain ⟨piece, rest, rfl⟩ := List.exists_cons_of_ne_nil hne
  obtain ⟨piece', rest', rfl⟩ := List.exists_cons_of_ne_nil hne'
  rw [intercalate_cons_eq, intercalate_cons_eq] at h
  rw [List.flatMap_cons, List.flatMap_cons, List.cons_append, List.cons_append, h]

/-- Pieces without the separator are read back from the text in which it joins them. -/
theorem intercalate_inj_of_notMem {pieces pieces' : List (List Char)} (hne : pieces ≠ [])
    (hne' : pieces' ≠ []) (hpieces : ∀ piece ∈ pieces, separator ∉ piece)
    (hpieces' : ∀ piece ∈ pieces', separator ∉ piece)
    (h : [separator].intercalate pieces = [separator].intercalate pieces') : pieces = pieces' := by
  rw [← List.splitOn_intercalate separator hpieces hne, h,
    List.splitOn_intercalate separator hpieces' hne']

end EdgeRouting
