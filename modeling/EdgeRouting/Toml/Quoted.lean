import EdgeRouting.Text.Digits
import EdgeRouting.Text.Scan

/-!
# Quoted text

A string stands in one or three quotes. Between double quotes there are escapes; between three
quotes there may be lines. The text has line feeds only at the ends of its lines.
-/

namespace EdgeRouting.Toml

def isPlain (c : Char) : Bool :=
  c == '\t' || (0x20 ≤ c.toNat && c.toNat ≠ 0x7F)

/-- How a string is quoted: its mark, and whether it stands in three of them. -/
structure Quotes where
  mark : Char
  lines : Bool

def Quotes.escapes (quotes : Quotes) : Bool :=
  quotes.mark == '"'

def scalar? (length : Nat) (text : List Char) : Option Char := do
  let digits := text.take length
  if digits.length < length then none
  let n ← Digits.number? 16 digits
  if n < 0xD800 ∨ (0xE000 ≤ n ∧ n < 0x110000) then return Char.ofNat n else none

/-- The character of an escape, and how many characters behind the backslash it takes. -/
def escape? : List Char → Option (Char × Nat)
  | 'b' :: _ => some ('\x08', 1)
  | 't' :: _ => some ('\t', 1)
  | 'n' :: _ => some ('\n', 1)
  | 'f' :: _ => some ('\x0c', 1)
  | 'r' :: _ => some ('\r', 1)
  | '"' :: _ => some ('"', 1)
  | '\\' :: _ => some ('\\', 1)
  | 'u' :: rest => (scalar? 4 rest).map (·, 5)
  | 'U' :: rest => (scalar? 8 rest).map (·, 9)
  | _ => none

/-- The length of the end of a line that a backslash takes away, with the blanks and lines that
follow. -/
def lineBreak? (text : List Char) : Option Nat :=
  if (Scan.skipBlanks text).head? = some '\n' then
    some (text.takeWhile fun c => Scan.isBlank c || c == '\n').length
  else none

/-- What the quotes at `text`, after one quote, close: the quotes that still belong to the string,
and the rest. Of five quotes the last three close. -/
def close? (quotes : Quotes) (text : List Char) : Option (List Char × List Char) :=
  if quotes.lines then
    let run := (text.takeWhile (· == quotes.mark)).length
    if run < 2 then none
    else
      let extra := min (run - 2) 2
      some (List.replicate extra quotes.mark, text.drop (extra + 2))
  else some ([], text)

def readBody? (quotes : Quotes) (skipped : Nat) : List Char → Option (List Char × List Char)
  | [] => none
  | c :: rest =>
    match skipped with
    | n + 1 => readBody? quotes n rest
    | 0 =>
      if c = quotes.mark then
        match close? quotes rest with
        | some closed => some closed
        | none => (readBody? quotes 0 rest).map fun (body, rest) => (c :: body, rest)
      else if c = '\\' ∧ quotes.escapes then
        match (if quotes.lines then lineBreak? rest else none) with
        | some length => readBody? quotes length rest
        | none => do
          let (e, used) ← escape? rest
          let (body, rest) ← readBody? quotes used rest
          return (e :: body, rest)
      else if isPlain c ∨ (c = '\n' ∧ quotes.lines) then
        (readBody? quotes 0 rest).map fun (body, rest) => (c :: body, rest)
      else none

def readBodyText? (quotes : Quotes) (text : List Char) : Option (String × List Char) :=
  (readBody? quotes 0 text).map fun (body, rest) => (String.ofList body, rest)

def readLineString? (mark : Char) (text : List Char) : Option (String × List Char) :=
  readBodyText? ⟨mark, false⟩ text

/-- A string after its first quote. A line feed right behind three quotes is left out. -/
def readString? (mark : Char) (text : List Char) : Option (String × List Char) :=
  if [mark, mark].isPrefixOf text then
    match text.drop 2 with
    | '\n' :: rest => readBodyText? ⟨mark, true⟩ rest
    | rest => readBodyText? ⟨mark, true⟩ rest
  else readLineString? mark text

end EdgeRouting.Toml
