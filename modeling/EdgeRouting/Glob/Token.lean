import EdgeRouting.Expression.Basic

/-!
# Header globs

A glob is literal text, `*` within a segment, `**` within a line, `**/` for any directories and
`{a,b}` for one of several texts. Braces do not nest, and a group is not empty.
-/

namespace EdgeRouting.Glob

inductive Token
  | literal (text : List Char)
  | star
  | doubleStar
  | directories
  | group (alternatives : List (List Char))
  deriving DecidableEq, Repr

/-- Why a glob cannot be read, with the byte offset of the brace at fault. -/
inductive Fault
  | unbalancedBrace (position : Nat)
  | invalidAlternation (position : Nat)
  deriving DecidableEq, Repr

namespace Token

def text : Token → List Char
  | .literal text => text
  | .star => ['*']
  | .doubleStar => ['*', '*']
  | .directories => ['*', '*', '/']
  | .group alternatives => '\x7b' :: [','].intercalate alternatives ++ ['\x7d']

def part : Token → Part
  | .literal text => .literal text
  | .star => .withinSegment
  | .doubleStar => .withinLine
  | .directories => .directories
  | .group alternatives => .oneOf alternatives

def cons (c : Char) : List Token → List Token
  | .literal text :: tokens => .literal (c :: text) :: tokens
  | tokens => .literal [c] :: tokens

end Token

def consAlternative (c : Char) : List (List Char) → List (List Char)
  | alternative :: alternatives => (c :: alternative) :: alternatives
  | [] => [[c]]

mutual

/-- The tokens of a glob whose first character has byte offset `position`. -/
def scan (position : Nat) : List Char → Except Fault (List Token)
  | [] => .ok []
  | '*' :: '*' :: '/' :: rest => do return .directories :: (← scan (position + 3) rest)
  | '*' :: '*' :: rest => do return .doubleStar :: (← scan (position + 2) rest)
  | '*' :: rest => do return .star :: (← scan (position + 1) rest)
  | '\x7b' :: '\x7d' :: _ => .error (.invalidAlternation position)
  | '\x7b' :: rest => do
    let (alternatives, tokens) ← scanGroup position (position + 1) rest
    return .group alternatives :: tokens
  | '\x7d' :: _ => .error (.unbalancedBrace position)
  | c :: rest => do return Token.cons c (← scan (position + c.utf8Size) rest)

/-- The alternatives of a group opened at `opened` up to its closing brace, and the tokens after
it. -/
def scanGroup (opened position : Nat) : List Char → Except Fault (List (List Char) × List Token)
  | [] => .error (.unbalancedBrace opened)
  | '\x7d' :: rest => do return ([[]], ← scan (position + 1) rest)
  | '\x7b' :: _ => .error (.invalidAlternation position)
  | ',' :: rest => do
    let (alternatives, tokens) ← scanGroup opened (position + 1) rest
    return ([] :: alternatives, tokens)
  | c :: rest => do
    let (alternatives, tokens) ← scanGroup opened (position + c.utf8Size) rest
    return (consAlternative c alternatives, tokens)

end

end EdgeRouting.Glob
