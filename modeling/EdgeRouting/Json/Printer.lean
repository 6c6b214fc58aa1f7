import EdgeRouting.Json.Value

/-!
# Writing JSON

Two blanks for each level, one item or member a line, and nothing between the brackets of an empty
list.
-/

namespace EdgeRouting.Json

def hexPair (n : Nat) : List Char :=
  [Nat.digitChar (n / 16), Nat.digitChar (n % 16)]

def escape (c : Char) : List Char :=
  if c = '"' then ['\\', '"']
  else if c = '\\' then ['\\', '\\']
  else if c = '\x08' then ['\\', 'b']
  else if c = '\x0c' then ['\\', 'f']
  else if c = '\n' then ['\\', 'n']
  else if c = '\r' then ['\\', 'r']
  else if c = '\t' then ['\\', 't']
  else if c.toNat < 0x20 then ['\\', 'u', '0', '0'] ++ hexPair c.toNat
  else [c]

def quote (s : List Char) : List Char :=
  '"' :: s.flatMap escape ++ ['"']

def newline (depth : Nat) : List Char :=
  '\n' :: List.replicate (2 * depth) ' '

def renderText : Text → List Char
  | some s => quote s.toList
  | none => quote []

mutual

def render (depth : Nat) : Value → List Char
  | .null | .otherNumber | .broken => "null".toList
  | .bool b => (if b then "true" else "false").toList
  | .natural n => Nat.toDigits 10 n
  | .string s => renderText s
  | .array [] => ['[', ']']
  | .array (item :: items) =>
    '[' :: newline (depth + 1) ++ render (depth + 1) item ++ renderItems (depth + 1) items ++
      newline depth ++ [']']
  | .object [] => ['\x7b', '\x7d']
  | .object ((key, value) :: members) =>
    '\x7b' :: newline (depth + 1) ++ renderText key ++ [':', ' '] ++ render (depth + 1) value
      ++ renderMembers (depth + 1) members ++ newline depth ++ ['\x7d']

def renderItems (depth : Nat) : List Value → List Char
  | [] => []
  | item :: items => ',' :: newline depth ++ render depth item ++ renderItems depth items

def renderMembers (depth : Nat) : List (Text × Value) → List Char
  | [] => []
  | (key, value) :: members =>
    ',' :: newline depth ++ renderText key ++ [':', ' '] ++ render depth value ++
      renderMembers depth members

end

def Value.pretty (v : Value) : String :=
  String.ofList (render 0 v)

end EdgeRouting.Json
