import EdgeRouting.Event
import EdgeRouting.Log.ValuePattern
import EdgeRouting.Text.Scan

/-!
# Directives

A directive says up to which level notices show, for the targets that begin with its own and for
notices that have its field. It is read character by character up to the blanks at its end, and a
part that ends is cut out by its bytes.
-/

namespace EdgeRouting

/-- How much shows: no level, or every level up to a rank. -/
structure Verbosity where
  rank : Nat
  deriving DecidableEq, Repr

namespace Verbosity

def errors : Verbosity := ⟨1⟩
def everything : Verbosity := ⟨5⟩

def names : List String := ["off", "error", "warn", "info", "debug", "trace"]

/-- A rank in digits, with or without a plus sign. -/
def rank? (text : List Char) : Option Nat :=
  let digits := if text.head? = some '+' then text.drop 1 else text
  if digits.isEmpty || !digits.all Char.isDigit then none else some (Nat.ofDigitChars 10 digits 0)

def ofText? (text : String) : Option Verbosity :=
  match rank? text.toList with
  | some rank => if rank ≤ everything.rank then some ⟨rank⟩ else none
  | none => (names.idxOf? (String.ofList (text.toList.map Char.toLower))).map (⟨·⟩)

end Verbosity

structure Directive where
  /-- Empty for every target. -/
  target : String := ""
  /-- The field that a notice has to have. -/
  field : Option String := none
  /-- Concerns only what happens within spans, of which this program opens none. -/
  inSpan : Bool := false
  verbosity : Verbosity := .everything
  deriving DecidableEq, Repr

namespace Directive

inductive Fault
  | malformed
  /-- A part would begin or end within a character. -/
  | splitCharacter
  deriving DecidableEq, Repr

def dropBytes : Nat → List Char → Except Fault (List Char)
  | 0, text => .ok text
  | _, [] => .error .splitCharacter
  | n, c :: text =>
    if c.utf8Size ≤ n then dropBytes (n - c.utf8Size) text else .error .splitCharacter

def takeBytes : Nat → List Char → Except Fault (List Char)
  | 0, _ => .ok []
  | _, [] => .error .splitCharacter
  | n, c :: text =>
    if c.utf8Size ≤ n then (takeBytes (n - c.utf8Size) text).map (c :: ·)
    else .error .splitCharacter

def cut (text : List Char) (first last : Nat) : Except Fault String := do
  String.ofList <$> takeBytes (last - first) (← dropBytes first text)

def cutFrom (text : List Char) (first : Nat) : Except Fault String :=
  String.ofList <$> dropBytes first text

/-- The part that is being read, with the byte where it began. -/
inductive Stage
  | start
  /-- A level or a target. -/
  | word (first : Nat)
  | span (first : Nat)
  | field (first : Nat)
  | afterField
  | afterSpan
  | level (first : Nat)
  deriving DecidableEq, Repr

/-- Letters and digits of every script may begin a target, and three marks. -/
def startsWord (c : Char) : Bool :=
  Character.isAlphanumeric c || c == '-' || c == ':' || c == '_'

/-- A field by its name. With a value it concerns spans only. -/
def withField (directive : Directive) (text : String) : Except Fault Directive :=
  let chars := text.toList
  match chars, chars.dropWhile (· ≠ '=') with
  | [], _ => .error .malformed
  | _, [] => .ok { directive with field := some text }
  | _, _ :: value =>
    if ValuePattern.isReadable (value.takeWhile (· ≠ '=')) then
      .ok { directive with inSpan := true }
    else .error .malformed

/-- Reads one character, which begins at a byte of the text. The name of a span is cut out as every
part is, though only its being there counts. -/
def step (text : List Char) (directive : Directive) (stage : Stage) (position : Nat) (c : Char) :
    Except Fault (Directive × Stage) :=
  match stage with
  | .start =>
    if c = '[' then .ok (directive, .span (position + 1))
    else if startsWord c then .ok (directive, .word position)
    else .error .malformed
  | .word first =>
    if c = '=' then do
      return ({ directive with target := ← cut text first position }, .level (position + 1))
    else if c = '[' then do
      return ({ directive with target := ← cut text first position }, .span (position + 1))
    else .ok (directive, stage)
  | .span first =>
    if c = ']' then do
      let _ ← cut text first position
      return ({ directive with inSpan := true }, .afterSpan)
    else if c = '\x7b' then do
      let name ← cut text first position
      return ({ directive with inSpan := name ≠ "" }, .field (position + 1))
    else .ok (directive, stage)
  | .field first =>
    if c = '\x7d' then do return (← directive.withField (← cut text first position), .afterField)
    else .ok (directive, stage)
  | .afterField => if c = ']' then .ok (directive, .afterSpan) else .error .malformed
  | .afterSpan => if c = '=' then .ok (directive, .level (position + 1)) else .error .malformed
  | .level _ => .ok (directive, stage)

def steps (text : List Char) (directive : Directive) (stage : Stage) (position : Nat) :
    List Char → Except Fault (Directive × Stage)
  | [] => .ok (directive, stage)
  | c :: rest => do
    let (directive, stage) ← step text directive stage position c
    steps text directive stage (position + c.utf8Size) rest

/-- What a directive says when its text ends. A word by itself is a level if it can be, and no level
means everything. -/
def finish (text : List Char) (directive : Directive) : Stage → Except Fault Directive
  | .word first => do
    let word ← cutFrom text first
    match Verbosity.ofText? word with
    | some verbosity => return { directive with verbosity }
    | none => return { directive with target := word }
  | .level first => do
    let word ← cutFrom text first
    if word = "" then return directive
    match Verbosity.ofText? word with
    | some verbosity => return { directive with verbosity }
    | none => .error .malformed
  | .afterSpan => .ok directive
  | _ => .error .malformed

/-- Reads a directive. Blanks at the ends are not read but keep their place: the bytes of a part are
counted from the first character that is read, and cut from the text with its blanks. -/
def read (text : List Char) : Except Fault Directive := do
  let (directive, stage) ← steps text {} .start 0 (Scan.trim Character.isSpace text)
  finish text directive stage

def concerns (directive : Directive) (notice : Notice) : Bool :=
  !directive.inSpan && directive.target.toList.isPrefixOf notice.target.toList
    && directive.field.all notice.fieldNames.contains

/-- Whether another directive says more about what it concerns: a longer target, or a field for the
same target, or a field that sorts later. -/
def yieldsTo (directive other : Directive) : Bool :=
  directive.target.length < other.target.length
    || directive.target.length == other.target.length
      && match directive.field, other.field with
        | none, _ => true
        | some _, none => false
        | some name, some otherName => name ≤ otherName

end Directive

end EdgeRouting
