import EdgeRouting.Expression.Basic

/-!
# Path patterns

A pattern is literal text, `:name` parameters and `*` wildcards. `scan` reads a colon without a name
as literal text; `bareColon?` finds the first such colon, which a source pattern may not have.
-/

namespace EdgeRouting.Pattern

inductive Token
  | literal (text : List Char)
  | parameter (name : List Char)
  | wildcard
  deriving DecidableEq, Repr

def isNameChar (c : Char) : Bool :=
  c.isAlphanum || c == '_'

namespace Token

def text : Token → List Char
  | .literal text => text
  | .parameter name => ':' :: name
  | .wildcard => ['*']

/-- Puts literal text in front, joined with a literal that already stands there. -/
def consLiteral (text : List Char) : List Token → List Token
  | .literal after :: tokens => .literal (text ++ after) :: tokens
  | tokens => if text = [] then tokens else .literal text :: tokens

/-- Puts one character in front. A colon takes the name characters after it as its name. -/
def cons (c : Char) (tokens : List Token) : List Token :=
  if c = '*' then .wildcard :: tokens
  else if c = ':' then
    match tokens with
    | .literal text :: later =>
      match text.span isNameChar with
      | ([], _) => consLiteral [c] tokens
      | (name, rest) => .parameter name :: consLiteral rest later
    | _ => consLiteral [c] tokens
  else consLiteral [c] tokens

def part : Token → Part
  | .literal text => .literal text
  | .parameter _ => .parameter
  | .wildcard => .wildcard

def name? : Token → Option (List Char)
  | .parameter name => some name
  | _ => none

end Token

def scan (pattern : List Char) : List Token :=
  pattern.foldr Token.cons []

/-- The byte offset, counted from `offset`, of the first colon that no name character follows. -/
def bareColon? (offset : Nat) : List Char → Option Nat
  | [] => none
  | c :: rest =>
    if c = ':' ∧ !(rest.head?.any isNameChar) then some offset
    else bareColon? (offset + c.utf8Size) rest

/-- A pattern is an absolute path without query and fragment. -/
def IsPath (pattern : List Char) : Prop :=
  pattern.head? = some '/' ∧ '?' ∉ pattern ∧ '#' ∉ pattern

instance (pattern : List Char) : Decidable (IsPath pattern) :=
  inferInstanceAs (Decidable (_ ∧ _ ∧ _))

def firstRepeated? (seen : List (List Char)) : List (List Char) → Option (List Char)
  | [] => none
  | name :: names => if name ∈ seen then some name else firstRepeated? (name :: seen) names

end EdgeRouting.Pattern
