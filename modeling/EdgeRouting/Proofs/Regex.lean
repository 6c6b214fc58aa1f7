import Mathlib.Data.List.Basic

/-!
# Regular expressions

The part of the syntax of regular expressions that rules and globs are written in, and what it
means. `matchesFrom` lists every way to match in the order in which a search tries them: a
repetition takes as much as it can before less, and an alternative comes before those written after
it. `search` takes the first way at the leftmost place. `read?` reads an expression from its text;
text outside this part of the syntax is not read.
-/

namespace EdgeRouting

inductive Regex
  | empty
  | char (c : Char)
  /-- Any one character but this. -/
  | anyBut (c : Char)
  | atStart
  | atEnd
  | seq (first second : Regex)
  | either (first second : Regex)
  /-- A group in brackets; one that captures has a number. -/
  | group (index : Option Nat) (body : Regex)
  | star (body : Regex)
  | plus (body : Regex)
  | optional (body : Regex)
  deriving DecidableEq, Repr

namespace Regex

/-- A place in a text, with what the numbered groups have captured on the way to it. -/
structure Place where
  position : Nat
  rest : List Char
  groups : Nat → Option (List Char)

namespace Place

def start (position : Nat) (rest : List Char) : Place :=
  ⟨position, rest, fun _ => none⟩

def advance (p : Place) (n : Nat) : Place :=
  { p with position := p.position + n, rest := p.rest.drop n }

def capture (p : Place) (index : Option Nat) (piece : List Char) : Place :=
  match index with
  | none => p
  | some index => { p with groups := fun i => if i = index then some piece else p.groups i }

end Place

def repeated (step : Place → List Place) : Nat → Place → List Place
  | 0, p => [p]
  | fuel + 1, p => (step p).flatMap (repeated step fuel) ++ [p]

/-- Every place at which a match from `p` can end, in the order in which a search tries them. -/
def matchesFrom : Regex → Place → List Place
  | empty, p => [p]
  | char c, p => if p.rest.head? = some c then [p.advance 1] else []
  | anyBut c, p => if p.rest.head?.any (· ≠ c) then [p.advance 1] else []
  | atStart, p => if p.position = 0 then [p] else []
  | atEnd, p => if p.rest = [] then [p] else []
  | seq first second, p => (matchesFrom first p).flatMap (matchesFrom second)
  | either first second, p => matchesFrom first p ++ matchesFrom second p
  | group index body, p =>
    (matchesFrom body p).map fun q => q.capture index (p.rest.take (q.position - p.position))
  | star body, p => repeated (matchesFrom body) p.rest.length p
  | plus body, p =>
    (matchesFrom body p).flatMap fun q => repeated (matchesFrom body) q.rest.length q
  | optional body, p => matchesFrom body p ++ [p]

/-- The first match at the leftmost place at or behind `position` that has one. -/
def searchFrom (r : Regex) (position : Nat) : List Char → Option Place
  | [] => (matchesFrom r (.start position [])).head?
  | c :: rest =>
    (matchesFrom r (.start position (c :: rest))).head?.or (searchFrom r (position + 1) rest)

def search (r : Regex) (text : List Char) : Option Place :=
  searchFrom r 0 text

def sequence (items : List Regex) : Regex :=
  items.foldr seq empty

def literal (text : List Char) : Regex :=
  sequence (text.map char)

def metacharacters : List Char :=
  ['\\', '.', '+', '*', '?', '(', ')', '|', '[', ']', '\x7b', '\x7d', '^', '$']

def escapable : List Char :=
  metacharacters ++ ['#', '&', '-', '~']

/-- A group that is open: the branches before its last bar, and the items after it, the last one
first. -/
structure OpenGroup where
  index : Option Nat := none
  done : Option Regex := none
  items : List Regex := []

namespace OpenGroup

def branch (g : OpenGroup) : Regex :=
  sequence g.items.reverse

def body (g : OpenGroup) : Regex :=
  match g.done with
  | none => g.branch
  | some done => .either done g.branch

def push (g : OpenGroup) (item : Regex) : OpenGroup :=
  { g with items := item :: g.items }

def bar (g : OpenGroup) : OpenGroup :=
  { g with done := some g.body, items := [] }

def quantify? (g : OpenGroup) (allowed : Regex → Bool) (quantifier : Regex → Regex) :
    Option OpenGroup :=
  match g.items with
  | [] => none
  | item :: items =>
    if allowed item then some { g with items := quantifier item :: items } else none

end OpenGroup

def isCharacter : Regex → Bool
  | char _ | anyBut _ => true
  | _ => false

def isCharacterOrGroup : Regex → Bool
  | group _ _ => true
  | item => item.isCharacter

/-- A text that has been read in part: the innermost open group, those around it, and how many
groups have got a number. -/
structure Reading where
  inner : OpenGroup := {}
  outer : List OpenGroup := []
  numbered : Nat := 0

namespace Reading

def push (r : Reading) (item : Regex) : Reading :=
  { r with inner := r.inner.push item }

def enter (r : Reading) : Reading :=
  { r with inner := {}, outer := r.inner :: r.outer }

def enterNumbered (r : Reading) : Reading :=
  { inner := { index := some (r.numbered + 1) }, outer := r.inner :: r.outer,
    numbered := r.numbered + 1 }

def leave? (r : Reading) : Option Reading :=
  match r.outer with
  | [] => none
  | g :: outer => some { r with inner := g.push (.group r.inner.index r.inner.body), outer }

def bar (r : Reading) : Reading :=
  { r with inner := r.inner.bar }

def quantify? (r : Reading) (allowed : Regex → Bool) (quantifier : Regex → Regex) :
    Option Reading :=
  (r.inner.quantify? allowed quantifier).map fun inner => { r with inner }

def finish? (r : Reading) : Option Regex :=
  match r.outer with
  | [] => some r.inner.body
  | _ :: _ => none

end Reading

/-- Reads on. Only single characters are repeated without bound. -/
def readFrom (r : Reading) : List Char → Option Regex
  | [] => r.finish?
  | '\\' :: c :: rest => if c ∈ escapable then readFrom (r.push (.char c)) rest else none
  | '(' :: '?' :: ':' :: rest => readFrom r.enter rest
  | '(' :: '?' :: _ => none
  | '(' :: rest => readFrom r.enterNumbered rest
  | ')' :: rest => r.leave?.bind fun r => readFrom r rest
  | '|' :: rest => readFrom r.bar rest
  | '[' :: '^' :: c :: ']' :: rest =>
    if c ∈ escapable then none else readFrom (r.push (.anyBut c)) rest
  | '.' :: rest => readFrom (r.push (.anyBut '\n')) rest
  | '^' :: rest => readFrom (r.push .atStart) rest
  | '$' :: rest => readFrom (r.push .atEnd) rest
  | '*' :: rest => (r.quantify? isCharacter .star).bind fun r => readFrom r rest
  | '+' :: rest => (r.quantify? isCharacter .plus).bind fun r => readFrom r rest
  | '?' :: rest => (r.quantify? isCharacterOrGroup .optional).bind fun r => readFrom r rest
  | c :: rest => if c ∈ metacharacters then none else readFrom (r.push (.char c)) rest

def read? (text : List Char) : Option Regex :=
  readFrom {} text

theorem matchesFrom_sequence_append (items more : List Regex) (p : Place) :
    matchesFrom (sequence (items ++ more)) p =
      (matchesFrom (sequence items) p).flatMap (matchesFrom (sequence more)) := by
  induction items generalizing p with
  | nil => simp [sequence, matchesFrom]
  | cons item items ih =>
    simp only [sequence, List.cons_append, List.foldr_cons, matchesFrom, List.flatMap_assoc] at ih ⊢
    congr 1
    funext q
    exact ih q

theorem matchesFrom_sequence_singleton (item : Regex) (p : Place) :
    matchesFrom (sequence [item]) p = matchesFrom item p := by
  simp [sequence, matchesFrom]

theorem matchesFrom_anchored (items : List Regex) (position : Nat) (rest : List Char) :
    matchesFrom (sequence (.atStart :: items)) (.start position rest) =
      if position = 0 then matchesFrom (sequence items) (.start position rest) else [] := by
  by_cases h : position = 0 <;> simp [sequence, matchesFrom, Place.start, h]

theorem searchFrom_anchored (items : List Regex) (position : Nat) (text : List Char) :
    searchFrom (sequence (.atStart :: items)) position text =
      if position = 0 then (matchesFrom (sequence items) (.start position text)).head?
      else none := by
  induction text generalizing position with
  | nil =>
    rw [searchFrom, matchesFrom_anchored]
    split <;> rfl
  | cons c text ih =>
    rw [searchFrom, matchesFrom_anchored, ih, if_neg (Nat.succ_ne_zero position), Option.or_none]
    split <;> rfl

/-- An expression that is anchored in front matches from the very start or not at all. -/
theorem search_anchored (items : List Regex) (text : List Char) :
    search (sequence (.atStart :: items)) text =
      (matchesFrom (sequence items) (.start 0 text)).head? := by
  rw [search, searchFrom_anchored, if_pos rfl]

theorem readFrom_numbered {rest : List Char} (h : rest.head? ≠ some '?') (r : Reading) :
    readFrom r ('(' :: rest) = readFrom r.enterNumbered rest := by
  rw [readFrom]
  all_goals
    intros
    subst_vars
    simp at h

theorem readFrom_plain {c : Char} (hc : c ∉ metacharacters) (r : Reading) (rest : List Char) :
    readFrom r (c :: rest) = readFrom (r.push (.char c)) rest := by
  have hne := hc
  simp only [metacharacters, List.mem_cons, not_or] at hne
  rw [readFrom, if_neg hc]
  all_goals grind

theorem readFrom_escaped {c : Char} (hc : c ∈ escapable) (r : Reading) (rest : List Char) :
    readFrom r ('\\' :: c :: rest) = readFrom (r.push (.char c)) rest := by
  rw [readFrom, if_pos hc]

end Regex

end EdgeRouting
