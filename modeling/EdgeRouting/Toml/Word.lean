import EdgeRouting.Text.Digits
import EdgeRouting.Text.Scan
import EdgeRouting.Toml.Value

/-!
# Words

Values without quotes or brackets: booleans, numbers, dates and times.
-/

namespace EdgeRouting.Toml

def isWordChar (c : Char) : Bool :=
  c.isAlphanum || "+-_.:".toList.contains c

/-- Digits of a base, where underscores may stand between two of them. -/
def digits? (base : Nat) (text : List Char) : Option (List Char) :=
  let runs := text.splitOn '_'
  if runs.all fun run => !run.isEmpty && run.all fun c => (Digits.digit? base c).isSome then
    some runs.flatten
  else none

def decimal? (text : List Char) : Option (List Char) :=
  (digits? 10 text).filter fun digits => digits.length = 1 || digits.head? ≠ some '0'

def signed : List Char → Bool × List Char
  | '-' :: rest => (true, rest)
  | '+' :: rest => (false, rest)
  | rest => (false, rest)

def signedValue (negative : Bool) (n : Nat) : Int :=
  if negative then -n else n

/-- A whole number that fits into 64 bits. Other bases than ten take no sign. -/
def integer? (text : List Char) : Option Int := do
  let n ← match text with
    | '0' :: 'x' :: rest => (digits? 16 rest).bind (Digits.number? 16) |>.map Int.ofNat
    | '0' :: 'o' :: rest => (digits? 8 rest).bind (Digits.number? 8) |>.map Int.ofNat
    | '0' :: 'b' :: rest => (digits? 2 rest).bind (Digits.number? 2) |>.map Int.ofNat
    | _ =>
      let (negative, rest) := signed text
      (decimal? rest).bind (Digits.number? 10) |>.map (signedValue negative)
  if -9223372036854775808 ≤ n ∧ n ≤ 9223372036854775807 then return n else none

/-- The least number that is rounded to infinity: half a step above the greatest finite one. -/
def overflow : Nat :=
  Nat.pow 2 1024 - Nat.pow 2 970

/-- Whether `n` times a power of ten is too large to be finite. The first two tests keep the power
small. -/
def overflows (n : Nat) (exponent : Int) : Bool :=
  let magnitude := ((Nat.toDigits 10 n).length : Int) + exponent
  if n = 0 || magnitude < 300 then false
  else if 320 < magnitude then true
  else if 0 ≤ exponent then decide (overflow ≤ n * Nat.pow 10 exponent.toNat)
  else decide (overflow * Nat.pow 10 (-exponent).toNat ≤ n)

def isExponentMark (c : Char) : Bool :=
  c == 'e' || c == 'E'

def exponent? (text : List Char) : Option Int :=
  let (negative, rest) := signed text
  (digits? 10 rest).bind (Digits.number? 10) |>.map (signedValue negative)

/-- A number with a fraction or an exponent. A positive one has to be finite. -/
def isFloat (text : List Char) : Bool :=
  let (negative, rest) := signed text
  if rest = "inf".toList || rest = "nan".toList then true
  else
    let mantissa := rest.takeWhile (!isExponentMark ·)
    let hasExponent := rest.any isExponentMark
    let hasFraction := mantissa.contains '.'
    let parts := do
      let whole ← decimal? (mantissa.takeWhile (· != '.'))
      let fraction ←
        if hasFraction then digits? 10 (mantissa.dropWhile (· != '.')).tail else some []
      let exponent ←
        if hasExponent then exponent? (rest.dropWhile (!isExponentMark ·)).tail else some 0
      let n ← Digits.number? 10 (whole ++ fraction)
      return (n, exponent - fraction.length)
    match parts with
    | none => false
    | some (n, exponent) => (hasFraction || hasExponent) && (negative || !overflows n exponent)

def readPair? (low high : Nat) : List Char → Option (Nat × List Char)
  | a :: b :: rest => do
    let n ← Digits.number? 10 [a, b]
    if low ≤ n ∧ n ≤ high then return (n, rest) else none
  | _ => none

def isLeapYear (year : Nat) : Bool :=
  year % 4 = 0 && (year % 100 ≠ 0 || year % 400 = 0)

def daysInMonth (year month : Nat) : Nat :=
  if month = 2 then (if isLeapYear year then 29 else 28)
  else if [4, 6, 9, 11].contains month then 30
  else 31

def readDate? (text : List Char) : Option (List Char) := do
  let (century, rest) ← readPair? 0 99 text
  let (year, rest) ← readPair? 0 99 rest
  let (month, rest) ← readPair? 1 12 (← Scan.char? '-' rest)
  let (day, rest) ← readPair? 1 31 (← Scan.char? '-' rest)
  if day ≤ daysInMonth (century * 100 + year) month then return rest else none

def readFraction? : List Char → Option (List Char)
  | '.' :: rest => (Digits.read? 10 rest).map fun (_, _, rest) => rest
  | rest => some rest

def readTime? (text : List Char) : Option (List Char) := do
  let (_, rest) ← readPair? 0 23 text
  let (_, rest) ← readPair? 0 59 (← Scan.char? ':' rest)
  let (_, rest) ← readPair? 0 60 (← Scan.char? ':' rest)
  readFraction? rest

def isOffset : List Char → Bool
  | [] | ['Z'] | ['z'] => true
  | sign :: rest =>
    (sign == '+' || sign == '-') && (do
      let (_, rest) ← readPair? 0 23 rest
      let (_, rest) ← readPair? 0 59 (← Scan.char? ':' rest)
      return rest.isEmpty : Option Bool).getD false

def isTimeMark (c : Char) : Bool :=
  c == 'T' || c == 't' || c == ' '

def isDate (text : List Char) : Bool :=
  readDate? text = some []

def isDateTime (text : List Char) : Bool :=
  match readDate? text with
  | some [] => true
  | some (mark :: rest) => isTimeMark mark && (readTime? rest).any isOffset
  | none => readTime? text = some []

def word? (text : List Char) : Option Value :=
  if text = "true".toList then some (.boolean true)
  else if text = "false".toList then some (.boolean false)
  else if isDateTime text then some .dateTime
  else if isFloat text then some .float
  else (integer? text).map .integer

/-- Reads a word. After a date, a blank and a digit go on with a time. -/
def readWord? (text : List Char) : Option (Value × List Char) :=
  let word := text.takeWhile isWordChar
  match text.dropWhile isWordChar with
  | ' ' :: c :: rest =>
    if isDate word && c.isDigit then
      (word? (word ++ ' ' :: (c :: rest).takeWhile isWordChar)).map
        (·, (c :: rest).dropWhile isWordChar)
    else (word? word).map (·, ' ' :: c :: rest)
  | rest => (word? word).map (·, rest)

end EdgeRouting.Toml
