import EdgeRouting.Text.PlainTable

/-!
# Quoted lists

A list of texts in brackets, each text in double quotes.
-/

namespace EdgeRouting.Quoted

/-- Quotes, backslashes and all characters that are not plain are written by escapes. -/
def escape (c : Char) : List Char :=
  if c = '"' then "\\\"".toList
  else if c = '\\' then "\\\\".toList
  else if c = '\n' then "\\n".toList
  else if c = '\r' then "\\r".toList
  else if c = '\t' then "\\t".toList
  else if c = '\x00' then "\\0".toList
  else if plain.contains c then [c]
  else "\\u\x7b".toList ++ Nat.toDigits 16 c.toNat ++ ['\x7d']

def text (s : String) : List Char :=
  '"' :: s.toList.flatMap escape ++ ['"']

def list (texts : List String) : String :=
  String.ofList ('[' :: [',', ' '].intercalate (texts.map text) ++ [']'])

end EdgeRouting.Quoted
