import EdgeRouting.CompileError
import EdgeRouting.Expression.Cut
import EdgeRouting.Pattern.Token

/-!
# Redirect and rewrite rules

A rule is compiled from a source pattern and a destination. The destination becomes a template over
the captures of the source: parameters bind by name, and the `n`-th wildcard takes the `n`-th
wildcard of the source. Everything that can fail fails here; applying a rule only matches and
substitutes.
-/

namespace EdgeRouting

inductive CaptureSlot
  | parameter (name : String)
  /-- The wildcards of a source are counted from zero. -/
  | wildcard (index : Nat)
  deriving DecidableEq, Repr

inductive TemplatePart
  | literal (text : String)
  /-- An index into the capture order. -/
  | capture (slot : Nat)
  deriving DecidableEq, Repr

structure Rule where
  source : String
  destination : String
  expression : Expression
  captureOrder : List CaptureSlot
  template : List TemplatePart
  deriving DecidableEq, Repr

namespace Rule

open Pattern (Token)

/-- The captures of a source in order, the first wildcard counted as `wildcards`. -/
def captureOrderFrom (wildcards : Nat) : List Token → List CaptureSlot
  | [] => []
  | .literal _ :: tokens => captureOrderFrom wildcards tokens
  | .parameter name :: tokens =>
    .parameter (String.ofList name) :: captureOrderFrom wildcards tokens
  | .wildcard :: tokens => .wildcard wildcards :: captureOrderFrom (wildcards + 1) tokens

/-- Where the wildcards stand in a capture order whose first slot has index `slot`. -/
def wildcardSlots (slot : Nat) : List CaptureSlot → List Nat
  | [] => []
  | .parameter _ :: order => wildcardSlots (slot + 1) order
  | .wildcard _ :: order => slot :: wildcardSlots (slot + 1) order

/-- Binds the tokens of a destination to the captures of a source: parameters by name, each wildcard
to the next of the `free` slots. -/
def bindTokens (order : List CaptureSlot) (undefined : String → CompileError)
    (excess : CompileError) : List Nat → List Token → Except CompileError (List TemplatePart)
  | _, [] => .ok []
  | free, .literal text :: tokens => do
    return .literal (String.ofList text) :: (← bindTokens order undefined excess free tokens)
  | free, .parameter name :: tokens =>
    match order.idxOf? (.parameter (String.ofList name)) with
    | some slot => do return .capture slot :: (← bindTokens order undefined excess free tokens)
    | none => .error (undefined (String.ofList name))
  | slot :: free, .wildcard :: tokens => do
    return .capture slot :: (← bindTokens order undefined excess free tokens)
  | [], .wildcard :: _ => .error excess

/-- The template of a destination over the captures of a source. Too many wildcards are reported
before unknown parameters. -/
def compileTemplate (source destination : String) (order : List CaptureSlot) :
    Except CompileError (List TemplatePart) := do
  let tokens := Pattern.scan destination.toList
  let free := wildcardSlots 0 order
  let used := tokens.count .wildcard
  let excess := CompileError.excessWildcards source destination used free.length
  if free.length < used then throw excess
  bindTokens order (.undefinedParameter source destination) excess free tokens

def compile (source destination : String) : Except CompileError Rule := do
  unless Pattern.IsPath source.toList do throw (.invalidPath source)
  unless Pattern.IsPath destination.toList do throw (.invalidPath destination)
  if let some position := Pattern.bareColon? 0 source.toList then
    throw (.unterminatedParameter source position)
  let tokens := Pattern.scan source.toList
  if let some name := Pattern.firstRepeated? [] (tokens.filterMap Token.name?) then
    throw (.duplicateParameter source (String.ofList name))
  let order := captureOrderFrom 0 tokens
  let template ← compileTemplate source destination order
  let expression := tokens.map Token.part
  if Expression.sizeLimit < Expression.weight expression then
    throw (.expressionTooLarge Expression.sizeLimit)
  return { source, destination, expression, captureOrder := order, template }

def pattern (rule : Rule) : String :=
  Expression.text rule.expression

def isMatch (rule : Rule) (path : String) : Bool :=
  Expression.isMatch rule.expression path.toList

def substitute (captures : List (List Char)) (template : List TemplatePart) : List Char :=
  template.flatMap fun
    | .literal text => text.toList
    | .capture slot => captures.getD slot []

def route? (rule : Rule) (path : String) : Option String :=
  (Expression.captures? rule.expression path.toList).map fun captures =>
    String.ofList (substitute captures rule.template)

/-- A rule that matched, its place in its list and the path it gives. -/
structure Match where
  index : Nat
  rule : Rule
  path : String
  deriving DecidableEq, Repr

def firstMatchFrom? (index : Nat) (path : String) : List Rule → Option Match
  | [] => none
  | rule :: rules =>
    match rule.route? path with
    | some destination => some ⟨index, rule, destination⟩
    | none => firstMatchFrom? (index + 1) path rules

def firstMatch? (rules : List Rule) (path : String) : Option Match :=
  firstMatchFrom? 0 path rules

end Rule

end EdgeRouting
