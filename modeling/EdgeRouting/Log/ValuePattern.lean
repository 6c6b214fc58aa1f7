import EdgeRouting.Text.Character
import EdgeRouting.Text.Digits

/-!
# Patterns of field values

A directive may ask for the value of a field, by a number or by an expression in the usual notation.
No notice is held against such a value, so all that matters is whether an expression could be
searched for.
-/

namespace EdgeRouting.ValuePattern

/-- What flags change in the notation: whether characters of all alphabets are meant, and whether
blanks count. -/
structure Mode where
  unicode : Bool := true
  verbose : Bool := false
  deriving DecidableEq, Repr

/-- Passes over blanks and comments, which have no meaning in verbose notation. -/
def skip (mode : Mode) (inComment : Bool) : List Char → List Char
  | [] => []
  | c :: text =>
    if !mode.verbose then c :: text
    else if inComment then skip mode (c ≠ '\n') text
    else if c = '#' then skip mode true text
    else if Character.isSpace c then skip mode false text
    else c :: text

inductive Escape
  | character (c : Char)
  | characters
  | position
  deriving DecidableEq, Repr

def readCode? (mode : Mode) :
    (count : Nat) → (digits : List Char) → List Char → Option (Char × List Char)
  | 0, digits, text => do
    let n ← Digits.number? 16 digits.reverse
    if n.isValidChar then return (Char.ofNat n, text) else none
  | count + 1, digits, text =>
    match skip mode false text with
    | [] => none
    | c :: text => readCode? mode count (c :: digits) text

def controls : List (Char × Char) :=
  [('a', '\x07'), ('f', '\x0c'), ('t', '\t'), ('n', '\n'), ('r', '\r'), ('v', '\x0b')]

/-- One escape, after its backslash. The ends of words are not known for all alphabets. -/
def readEscape? (mode : Mode) : List Char → Option (Escape × List Char)
  | [] => none
  | c :: text =>
    let code (count : Nat) :=
      (readCode? mode count [] text).map fun (c, text) => (Escape.character c, text)
    if c = 'x' then do
      let (escape, text) ← code 2
      if mode.unicode then return (escape, text)
      match escape with
      | .character c => if c.toNat < 0x80 then return (escape, text) else none
      | _ => none
    else if c = 'u' then code 4
    else if c = 'U' then code 8
    else if c = 'p' || c = 'P' then
      match skip mode false text with
      | kind :: text =>
        if mode.unicode && "clmnpszCLMNPSZ".toList.contains kind then
          some (.characters, text) else none
      | [] => none
    else if "dsw".toList.contains c then some (.characters, text)
    else if "DSW".toList.contains c then if mode.unicode then some (.characters, text) else none
    else if "bB<>".toList.contains c then if mode.unicode then none else some (.position, text)
    else if c = 'A' || c = 'z' then some (.position, text)
    else match controls.lookup c with
      | some control => some (.character control, text)
      | none => if c.toNat < 0x80 && !c.isAlphanum then some (.character c, text) else none

def setNames : List String :=
  ["alnum", "alpha", "ascii", "blank", "cntrl", "digit", "graph", "lower", "print", "punct",
    "space", "upper", "word", "xdigit"]

def skipNamedSet? : List Char → Option (List Char)
  | ':' :: text =>
    let text := if text.head? = some '^' then text.drop 1 else text
    match text.dropWhile (· ≠ ':') with
    | ':' :: ']' :: rest =>
      if setNames.contains (String.ofList (text.takeWhile (· ≠ ':'))) then some rest else none
    | _ => none
  | _ => none

/-- The text behind the opening of a set. A bracket that closes is a character there. -/
def openSet? (mode : Mode) (text : List Char) : Option (List Char) := do
  let text := skip mode false text
  if text.head? = some '^' && !mode.unicode then none
  let text := if text.head? = some '^' then skip mode false (text.drop 1) else text
  let behind := skip mode false (text.dropWhile (· = '-'))
  if text.head? ≠ some '-' && behind.head? = some ']' then return behind.drop 1
  return behind

def readMember? (mode : Mode) : List Char → Option (Escape × List Char)
  | [] => none
  | '\\' :: text => do
    let (escape, text) ← readEscape? mode text
    if escape = .position then none else return (escape, text)
  | c :: text => if mode.unicode || c.toNat < 0x80 then some (.character c, text) else none

/-- The text behind a member or a range. A range ends where it begins or later. -/
def skipRange? (mode : Mode) (text : List Char) : Option (List Char) := do
  let (first, text) ← readMember? mode text
  match skip mode false text with
  | [] => none
  | '-' :: rest =>
    let behind := skip mode false rest
    if behind.head? = some ']' || behind.head? = some '-' then return '-' :: rest
    let (last, text) ← readMember? mode behind
    match first, last with
    | .character a, .character b => if a ≤ b then return text else none
    | _, _ => none
  | text => return text

def skipSet? (mode : Mode) : (fuel depth : Nat) → List Char → Option (List Char)
  | 0, _, _ => none
  | fuel + 1, depth, text =>
    match skip mode false text with
    | [] => none
    | '[' :: text =>
      match skipNamedSet? text with
      | some text => skipSet? mode fuel depth text
      | none => (openSet? mode text).bind (skipSet? mode fuel (depth + 1))
    | ']' :: text => if depth = 1 then some text else skipSet? mode fuel (depth - 1) text
    | '&' :: '&' :: text | '-' :: '-' :: text | '~' :: '~' :: text => skipSet? mode fuel depth text
    | text => (skipRange? mode text).bind (skipSet? mode fuel depth)

inductive Opening
  | group (mode : Mode) (name : Option String)
  /-- Flags for what follows in the group around. -/
  | flags (mode : Mode)
  deriving DecidableEq, Repr

/-- Reads flags up to their end. No flag comes twice, and one of them comes after a hyphen. -/
def readFlags? (mode : Mode) (seen : List Char) : List Char → Option (Opening × List Char)
  | [] => none
  | c :: text =>
    if c = ':' || c = ')' then
      if seen.head? = some '-' || (c = ')' && seen.isEmpty) then none
      else some (if c = ':' then .group mode none else .flags mode, text)
    else if seen.contains c then none
    else
      let value := !seen.contains '-'
      if c = 'u' then readFlags? { mode with unicode := value } (c :: seen) text
      else if c = 'x' then readFlags? { mode with verbose := value } (c :: seen) text
      else if "-imsUR".toList.contains c then readFlags? mode (c :: seen) text
      else none

def readName? (text : List Char) : Option (String × List Char) :=
  let name := text.takeWhile (· ≠ '>')
  match name, text.dropWhile (· ≠ '>') with
  | first :: others, _ :: rest =>
    if (first = '_' || Character.isAlphabetic first)
        && others.all fun c => "_.[]".toList.contains c || Character.isAlphanumeric c then
      some (String.ofList name, rest)
    else none
  | _, _ => none

/-- What begins behind an opening parenthesis. Nothing may be asked of the text around a match. -/
def readOpening? (mode : Mode) (text : List Char) : Option (Opening × List Char) :=
  let named (text : List Char) :=
    (readName? text).map fun (name, text) => (Opening.group mode (some name), text)
  match skip mode false text with
  | '?' :: 'P' :: '<' :: text => named text
  | '?' :: '<' :: text => named text
  | '?' :: text => readFlags? mode [] text
  | text => some (.group mode none, text)

/-- Whether an expression can be read to its end. What may be repeated stands directly before the
sign that repeats. -/
def isExpression :
    (fuel : Nat) → (outer : List Mode) → (names : List String) → (mode : Mode) →
    (repeatable : Bool) → List Char → Bool
  | 0, _, _, _, _, _ => false
  | fuel + 1, outer, names, mode, repeatable, text =>
    match skip mode false text with
    | [] => outer.isEmpty
    | '(' :: text =>
      match readOpening? mode text with
      | some (.group inner none, text) => isExpression fuel (mode :: outer) names inner false text
      | some (.group inner (some name), text) =>
        !names.contains name && isExpression fuel (mode :: outer) (name :: names) inner false text
      | some (.flags mode, text) => isExpression fuel outer names mode false text
      | none => false
    | ')' :: text =>
      match outer with
      | mode :: outer => isExpression fuel outer names mode true text
      | [] => false
    | '|' :: text => isExpression fuel outer names mode false text
    | '[' :: text =>
      match (openSet? mode text).bind (skipSet? mode (text.length + 1) 1) with
      | some text => isExpression fuel outer names mode true text
      | none => false
    | '\\' :: text =>
      match readEscape? mode text with
      | some (_, text) => isExpression fuel outer names mode true text
      | none => false
    | c :: text =>
      if c = '\x7b' then false
      else if "?*+".toList.contains c then
        repeatable &&
          isExpression fuel outer names mode true
            (if text.head? = some '?' then text.drop 1 else text)
      else (c ≠ '.' || mode.unicode) && isExpression fuel outer names mode true text

def isExponent (text : List Char) : Bool :=
  match text with
  | [] => true
  | c :: text =>
    let digits := if text.head? = some '+' || text.head? = some '-' then text.drop 1 else text
    (c = 'e' || c = 'E') && !digits.isEmpty && digits.all Char.isDigit

/-- A number without a sign: digits with a point before, between or after them, or one of the
numbers with a name. -/
def isNumber (text : List Char) : Bool :=
  let whole := text.takeWhile Char.isDigit
  let rest := text.dropWhile Char.isDigit
  let behind := if rest.head? = some '.' then rest.drop 1 else rest
  let fraction := if rest.head? = some '.' then behind.takeWhile Char.isDigit else []
  (!(whole ++ fraction).isEmpty && isExponent (behind.drop fraction.length))
    || ["inf", "infinity", "nan"].contains (String.ofList (text.map Char.toLower))

/-- Whether a value can be asked for. Only with a plus sign is a number no expression as well. -/
def isReadable (text : List Char) : Bool :=
  (text.head? = some '+' && isNumber (text.drop 1)) ||
    isExpression (text.length + 1) [] [] {} false text

end EdgeRouting.ValuePattern
