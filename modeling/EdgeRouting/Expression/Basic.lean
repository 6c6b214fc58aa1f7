/-!
# Anchored expressions

An expression is the sequence of parts into which a whole path has to be cut. Patterns and globs are
both compiled to expressions, and the text of an expression is the form in which a bundle stores it.
-/

namespace EdgeRouting

/-- One part of an expression, matched by one piece of the path. -/
inductive Part
  /-- Exactly this text. -/
  | literal (text : List Char)
  /-- A captured run of one or more characters within a segment. -/
  | parameter
  /-- A captured run of characters within a line, possibly empty. -/
  | wildcard
  /-- A run of characters within a segment, possibly empty. -/
  | withinSegment
  /-- A run of characters within a line, possibly empty. -/
  | withinLine
  /-- Nothing, or text within a line that ends in a slash. -/
  | directories
  /-- Exactly one of these texts. -/
  | oneOf (alternatives : List (List Char))
  deriving DecidableEq, Repr

abbrev Expression := List Part

namespace Part

def isCaptured : Part → Bool
  | .parameter | .wildcard => true
  | _ => false

def Admits : Part → List Char → Prop
  | .literal text, piece => piece = text
  | .parameter, piece => piece ≠ [] ∧ '/' ∉ piece
  | .wildcard, piece => '\n' ∉ piece
  | .withinSegment, piece => '/' ∉ piece
  | .withinLine, piece => '\n' ∉ piece
  | .directories, piece => piece = [] ∨ ∃ names, '\n' ∉ names ∧ piece = names ++ ['/']
  | .oneOf alternatives, piece => piece ∈ alternatives

def operators : List Char := "\\.+*?()|[]\x7b\x7d^$#&-~".toList

/-- The text that matches exactly `text`: every operator stands behind a backslash. -/
def escape (text : List Char) : List Char :=
  text.flatMap fun c => if c ∈ operators then ['\\', c] else [c]

def text : Part → List Char
  | .literal text => escape text
  | .parameter => "([^/]+)".toList
  | .wildcard => "(.*)".toList
  | .withinSegment => "[^/]*".toList
  | .withinLine => ".*".toList
  | .directories => "(?:.*/)?".toList
  | .oneOf alternatives => "(?:".toList ++ ['|'].intercalate (alternatives.map escape) ++ [')']

/-- Bytes that a part takes once it is built for matching: runs are charged for the byte forms of a
whole character class, literals for each byte. -/
def weight : Part → Nat
  | .literal text => 32 * (String.ofList text).utf8ByteSize
  | .directories => 1144
  | .oneOf alternatives =>
    alternatives.foldr (fun a n => 32 * (1 + (String.ofList a).utf8ByteSize) + n) 0
  | _ => 1040

end Part

namespace Expression

def text (e : Expression) : String :=
  String.ofList ('^' :: e.flatMap Part.text ++ ['$'])

/-- Expressions above this many bytes are refused. -/
def sizeLimit : Nat := 10 * 1024 * 1024

def weight (e : Expression) : Nat :=
  e.foldr (fun part n => part.weight + n) 0

end Expression

end EdgeRouting
