import EdgeRouting.Toml.Quoted
import EdgeRouting.Toml.Table
import EdgeRouting.Toml.Word

/-!
# TOML documents

A document is a list of statements, one a line; the table that they build is its value.
-/

namespace EdgeRouting.Toml

structure Key where
  path : List String
  last : String
  deriving DecidableEq, Repr

inductive Statement
  | set (key : Key) (value : Value)
  | openTable (key : Key)
  | addTable (key : Key)

/-- Lines end in a line feed, which a carriage return may precede. No other carriage return is
allowed. -/
def unifyLineEnds? : List Char → Option (List Char)
  | [] => some []
  | '\r' :: '\n' :: rest => (unifyLineEnds? rest).map ('\n' :: ·)
  | c :: rest => if c = '\r' then none else (unifyLineEnds? rest).map (c :: ·)

def skipComment : List Char → List Char
  | '#' :: rest => rest.dropWhile isPlain
  | rest => rest

def endLine? (text : List Char) : Option (List Char) :=
  match skipComment (Scan.skipBlanks text) with
  | [] => some []
  | '\n' :: rest => some rest
  | _ => none

def skipGap (inComment : Bool) : List Char → List Char
  | [] => []
  | c :: rest =>
    if c = '\n' then skipGap false rest
    else if inComment then (if isPlain c then skipGap true rest else c :: rest)
    else if c = '#' then skipGap true rest
    else if Scan.isBlank c then skipGap false rest
    else c :: rest

def isBareChar (c : Char) : Bool :=
  c.isAlphanum || c == '-' || c == '_'

def readName? : List Char → Option (String × List Char)
  | '"' :: rest => readLineString? '"' rest
  | '\'' :: rest => readLineString? '\'' rest
  | text =>
    let name := text.takeWhile isBareChar
    if name.isEmpty then none else some (String.ofList name, text.dropWhile isBareChar)

def readNames? : (room : Nat) → List Char → Option (List String × List Char)
  | 0, _ => none
  | room + 1, text => do
    let (name, rest) ← readName? text
    match Scan.skipBlanks rest with
    | '.' :: rest =>
      let (names, rest) ← readNames? room (Scan.skipBlanks rest)
      return (name :: names, rest)
    | rest => return ([name], rest)

/-- Names in a key, and levels of brackets in a value, of which there are less than eighty. -/
def maxDepth : Nat := 79

def readKey? (text : List Char) : Option (Key × List Char) := do
  let (names, rest) ← readNames? maxDepth text
  return (⟨names.dropLast, ← names.getLast?⟩, rest)

/-- A table in braces is closed: nothing is added to it later. -/
def closeTable? (settings : List (Key × Value)) : Option Value :=
  (settings.foldlM (fun table (setting : Key × Value) =>
    Table.set? setting.1.path setting.1.last setting.2 table) Table.empty).map Table.toValue

mutual

/-- A value with `depth` more levels of brackets left. -/
def readValue? : (fuel depth : Nat) → List Char → Option (Value × List Char)
  | 0, _, _ => none
  | fuel + 1, depth, text =>
    match text with
    | '"' :: rest => (readString? '"' rest).map fun (text, rest) => (.string text, rest)
    | '\'' :: rest => (readString? '\'' rest).map fun (text, rest) => (.string text, rest)
    | '[' :: rest =>
      if depth = 0 then none
      else (readItems? fuel (depth - 1) rest).map fun (items, rest) => (.array items, rest)
    | '\x7b' :: rest =>
      if depth = 0 then none
      else match Scan.skipBlanks rest with
        | '\x7d' :: rest => some (.table [], rest)
        | rest => do
          let (settings, rest) ← readSettings? fuel (depth - 1) rest
          return (← closeTable? settings, rest)
    | text => readWord? text

def readItems? : (fuel depth : Nat) → List Char → Option (List Value × List Char)
  | 0, _, _ => none
  | fuel + 1, depth, text =>
    match skipGap false text with
    | ']' :: rest => some ([], rest)
    | text => do
      let (item, rest) ← readValue? fuel depth text
      match skipGap false rest with
      | ',' :: rest =>
        let (items, rest) ← readItems? fuel depth rest
        return (item :: items, rest)
      | ']' :: rest => return ([item], rest)
      | _ => none

def readSettings? : (fuel depth : Nat) → List Char → Option (List (Key × Value) × List Char)
  | 0, _, _ => none
  | fuel + 1, depth, text => do
    let (key, rest) ← readKey? (Scan.skipBlanks text)
    let (value, rest) ← readValue? fuel depth (Scan.skipBlanks (← Scan.char? '=' rest))
    match Scan.skipBlanks rest with
    | ',' :: rest =>
      let (settings, rest) ← readSettings? fuel depth rest
      return ((key, value) :: settings, rest)
    | '\x7d' :: rest => return ([(key, value)], rest)
    | _ => none

end

def readStatement? (fuel : Nat) (text : List Char) : Option (Statement × List Char) :=
  match text with
  | '[' :: '[' :: rest => do
    let (key, rest) ← readKey? (Scan.skipBlanks rest)
    return (.addTable key, ← endLine? (← Scan.char? ']' (← Scan.char? ']' rest)))
  | '[' :: rest => do
    let (key, rest) ← readKey? (Scan.skipBlanks rest)
    return (.openTable key, ← endLine? (← Scan.char? ']' rest))
  | text => do
    let (key, rest) ← readKey? text
    let (value, rest) ← readValue? fuel maxDepth (Scan.skipBlanks (← Scan.char? '=' rest))
    return (.set key value, ← endLine? rest)

def readStatements? : (fuel : Nat) → List Char → Option (List Statement)
  | 0, _ => none
  | fuel + 1, text =>
    match Scan.skipBlanks text with
    | [] => some []
    | '\n' :: rest => readStatements? fuel rest
    | '#' :: rest => do readStatements? fuel (← endLine? ('#' :: rest))
    | text => do
      let (statement, rest) ← readStatement? fuel text
      return statement :: (← readStatements? fuel rest)

/-- The document so far, and the table that keys go to. -/
structure Draft where
  root : Table
  current : List String

def Draft.step (draft : Draft) : Statement → Option Draft
  | .set key value => do
    let change := Table.set? key.path key.last value
    return { draft with root := ← Table.alterAt? .implied change draft.current draft.root }
  | .openTable key => do
    return ⟨← Table.openTable? key.path key.last draft.root, key.path ++ [key.last]⟩
  | .addTable key => do
    return ⟨← Table.addTable? key.path key.last draft.root, key.path ++ [key.last]⟩

def skipMark : List Char → List Char
  | '\uFEFF' :: rest => rest
  | rest => rest

/-- The value of a document, which is read with fuel for two steps a character. -/
def read? (text : String) : Option Value := do
  let chars ← unifyLineEnds? (skipMark text.toList)
  let statements ← readStatements? (2 * chars.length + 2) chars
  let draft ← statements.foldlM Draft.step ⟨Table.empty, []⟩
  return draft.root.toValue

end EdgeRouting.Toml
