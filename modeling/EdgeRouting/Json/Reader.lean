import EdgeRouting.Json.Value
import EdgeRouting.Text.Digits

/-!
# Reading JSON

Every reader gives what it read and the rest of the text; no rest means that the text stopped being
JSON.
-/

namespace EdgeRouting.Json

def isBlank (c : Char) : Bool :=
  c == ' ' || c == '\n' || c == '\t' || c == '\r'

def skipBlanks (text : List Char) : List Char :=
  text.dropWhile isBlank

/-- A unit of a string: a character, or half of a surrogate pair. -/
inductive Unit16
  | char (c : Char)
  | half (n : Nat)
  deriving DecidableEq, Repr

def unitOf (n : Nat) : Unit16 :=
  if 0xD800 ≤ n ∧ n < 0xE000 then .half n else .char (Char.ofNat n)

def escaped? (c : Char) : Option Char :=
  match c with
  | '"' => some '"'
  | '\\' => some '\\'
  | '/' => some '/'
  | 'b' => some '\x08'
  | 'f' => some '\x0c'
  | 'n' => some '\n'
  | 'r' => some '\r'
  | 't' => some '\t'
  | _ => none

def readUnits : List Char → Option (List Unit16 × List Char)
  | [] => none
  | '"' :: rest => some ([], rest)
  | '\\' :: 'u' :: a :: b :: c :: d :: rest => do
    let n ← Digits.number? 16 [a, b, c, d]
    let (units, rest) ← readUnits rest
    return (unitOf n :: units, rest)
  | '\\' :: c :: rest => do
    let c ← escaped? c
    let (units, rest) ← readUnits rest
    return (.char c :: units, rest)
  | c :: rest =>
    if c = '\\' ∨ c.toNat < 0x20 then none
    else do
      let (units, rest) ← readUnits rest
      return (.char c :: units, rest)

/-- The characters of some units: each first half stands before its second half. -/
def pair? : List Unit16 → Option (List Char)
  | [] => some []
  | .char c :: units => (pair? units).map (c :: ·)
  | .half high :: .half low :: units =>
    if high < 0xDC00 ∧ 0xDC00 ≤ low then
      (pair? units).map (Char.ofNat (0x10000 + (high - 0xD800) * 0x400 + (low - 0xDC00)) :: ·)
    else none
  | .half _ :: _ => none

def readString (text : List Char) : Option (Text × List Char) :=
  (readUnits text).map fun (units, rest) => ((pair? units).map String.ofList, rest)

/-- The digits of a fraction, if there is one: none if it has no digit. -/
def readFraction : List Char → Option (Bool × List Char)
  | '.' :: rest =>
    if rest.head?.any Char.isDigit then some (true, rest.dropWhile Char.isDigit) else none
  | rest => some (false, rest)

def skipSign : List Char → List Char
  | '+' :: rest | '-' :: rest => rest
  | rest => rest

def readExponent : List Char → Option (Bool × List Char)
  | 'e' :: rest | 'E' :: rest =>
    let rest := skipSign rest
    if rest.head?.any Char.isDigit then some (true, rest.dropWhile Char.isDigit) else none
  | rest => some (false, rest)

/-- A number without its sign. A zero in front stands alone. -/
def readNumber (negative : Bool) (text : List Char) : Value × Option (List Char) :=
  let digits := text.takeWhile Char.isDigit
  let result := do
    if digits = [] ∨ (digits.head? = some '0' ∧ digits ≠ ['0']) then none
    let (fraction, rest) ← readFraction (text.dropWhile Char.isDigit)
    let (exponent, rest) ← readExponent rest
    return (if negative || fraction || exponent then Value.otherNumber
      else .natural (Nat.ofDigitChars 10 digits 0), rest)
  match result with
  | some (value, rest) => (value, some rest)
  | none => (.broken, none)

def readWord (word : String) (value : Value) (text : List Char) : Value × Option (List Char) :=
  if word.toList.isPrefixOf text then (value, some (text.drop word.toList.length))
  else (.broken, none)

mutual

/-- A value, with brackets within brackets to any depth. -/
def readValue : (fuel : Nat) → List Char → Value × Option (List Char)
  | 0, _ => (.broken, none)
  | fuel + 1, text =>
    match skipBlanks text with
    | '"' :: rest =>
      match readString rest with
      | some (s, rest) => (.string s, some rest)
      | none => (.broken, none)
    | '[' :: rest =>
      match skipBlanks rest with
      | ']' :: rest => (.array [], some rest)
      | rest =>
        let (items, rest) := readItems fuel rest
        (.array items, rest)
    | '\x7b' :: rest =>
      match skipBlanks rest with
      | '\x7d' :: rest => (.object [], some rest)
      | rest =>
        let (members, rest) := readMembers fuel rest
        (.object members, rest)
    | 'n' :: rest => readWord "ull" .null rest
    | 't' :: rest => readWord "rue" (.bool true) rest
    | 'f' :: rest => readWord "alse" (.bool false) rest
    | '-' :: rest => readNumber true rest
    | rest => readNumber false rest

def readItems : (fuel : Nat) → List Char → List Value × Option (List Char)
  | 0, _ => ([.broken], none)
  | fuel + 1, text =>
    match readValue fuel text with
    | (item, none) => ([item], none)
    | (item, some rest) =>
      match skipBlanks rest with
      | ',' :: rest =>
        let (items, rest) := readItems fuel rest
        (item :: items, rest)
      | ']' :: rest => ([item], some rest)
      | _ => ([item, .broken], none)

def readMembers : (fuel : Nat) → List Char → List (Text × Value) × Option (List Char)
  | 0, _ => ([(none, .broken)], none)
  | fuel + 1, text =>
    match skipBlanks text with
    | '"' :: rest =>
      match readString rest with
      | none => ([(none, .broken)], none)
      | some (key, rest) =>
        match skipBlanks rest with
        | ':' :: rest =>
          match readValue fuel rest with
          | (value, none) => ([(key, value)], none)
          | (value, some rest) =>
            match skipBlanks rest with
            | ',' :: rest =>
              let (members, rest) := readMembers fuel rest
              ((key, value) :: members, rest)
            | '\x7d' :: rest => ([(key, value)], some rest)
            | _ => ([(key, value), (none, .broken)], none)
        | _ => ([(key, .broken)], none)
    | _ => ([(none, .broken)], none)

end

/-- A text as a document: its value, and whether nothing but blanks follows. -/
structure Document where
  value : Value
  isWhole : Bool

/-- A text is read with fuel for two steps a character. -/
def Document.read (text : String) : Document :=
  let chars := text.toList
  match readValue (2 * chars.length + 2) chars with
  | (value, some rest) => ⟨value, (skipBlanks rest).isEmpty⟩
  | (value, none) => ⟨value, false⟩

end EdgeRouting.Json
