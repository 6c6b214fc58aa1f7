import EdgeRouting.Expression.Basic

/-!
# Cutting a path along an expression

`Cuts` says which pieces a path may be cut into. `cut?` finds the cut whose sequence of piece
lengths is the greatest one, left to right. It works on rows: a row holds one entry for each tail of
the path, the whole path first and the empty tail last, and the row of an expression is filled from
the row of the expression after its first part. So the work is the number of parts times the length
of the path, whatever the path is.
-/

namespace EdgeRouting.Expression

/-- One piece for each part of an expression. -/
abbrev Cut := List (List Char)

/-- `path` is the pieces one after another, each admitted by its part. -/
def Cuts : Expression → List Char → Cut → Prop
  | [], path, pieces => path = [] ∧ pieces = []
  | _ :: _, _, [] => False
  | part :: e, path, piece :: pieces =>
    ∃ rest, path = piece ++ rest ∧ part.Admits piece ∧ Cuts e rest pieces

/-- For each tail of a path its best cut. -/
abbrev Row := List (Option Cut)

def extend (c : Char) : Cut → Cut
  | piece :: pieces => (c :: piece) :: pieces
  | [] => []

/-- The first of the texts that `path` starts with and after which the rest can be cut. -/
def choose (texts : List (List Char)) (path : List Char) (next : Row) : Option Cut :=
  texts.findSome? fun text =>
    if text.isPrefixOf path then ((next.drop text.length).headD none).map (text :: ·) else none

def choiceRow (texts : List (List Char)) : List Char → Row → Row
  | [], next => [choose texts [] next]
  | c :: path, next => choose texts (c :: path) next :: choiceRow texts path next.tail

/-- A run of characters other than `stop`: as long as possible, and empty where nothing longer will
do. -/
def runRow (stop : Char) : List Char → Row → Row
  | c :: path, here :: next =>
    let row := runRow stop path next
    let longer := if c = stop then none else (row.headD none).map (extend c)
    longer.or (here.map ([] :: ·)) :: row
  | _, next => next.map fun here => here.map ([] :: ·)

/-- The entries of `row` one place on, each extended by the character passed, which may not be
`stop`. -/
def atLeastOne (stop : Char) (path : List Char) (row : Row) : Row :=
  List.zipWith (fun c after => if c = stop then none else after.map (extend c)) path
    (row.drop 1) ++ [none]

/-- Text within a line that ends in a slash, as long as possible. -/
def slashRow : List Char → Row → Row
  | c :: path, _ :: next =>
    let row := slashRow path next
    let longer := if c = '\n' then none else (row.headD none).map (extend c)
    longer.or (if c = '/' then (next.headD none).map (['/'] :: ·) else none) :: row
  | _, next => next.map fun _ => none

def partRow : Part → List Char → Row → Row
  | .literal text, path, next => choiceRow [text] path next
  | .parameter, path, next => atLeastOne '/' path (runRow '/' path next)
  | .wildcard, path, next | .withinLine, path, next => runRow '\n' path next
  | .withinSegment, path, next => runRow '/' path next
  | .directories, path, next =>
    List.zipWith (fun nonempty here => nonempty.or (here.map ([] :: ·))) (slashRow path next) next
  | .oneOf alternatives, path, next => choiceRow alternatives path next

def row : Expression → List Char → Row
  | [], path => path.map (fun _ => none) ++ [some []]
  | part :: e, path => partRow part path (row e path)

def cut? (e : Expression) (path : List Char) : Option Cut :=
  (row e path).headD none

def captures? (e : Expression) (path : List Char) : Option (List (List Char)) :=
  (cut? e path).map fun pieces => ((e.zip pieces).filter (·.1.isCaptured)).map (·.2)

def isMatch (e : Expression) (path : List Char) : Bool :=
  (cut? e path).isSome

end EdgeRouting.Expression
