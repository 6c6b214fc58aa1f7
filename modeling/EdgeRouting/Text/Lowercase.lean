import EdgeRouting.Text.CaseTable

/-!
# Lower case

Full lower case of a text. Two letters need more than a table: the capital I with a dot becomes two
characters, and a capital sigma takes its final form at the end of a word.
-/

namespace EdgeRouting.Lowercase

def mapChar (c : Char) : Char :=
  match mappings.find? fun (first, last, step, _) =>
      first ≤ c.toNat && c.toNat ≤ last && (c.toNat - first) % step == 0 with
  | some (_, _, _, shift) => Char.ofNat ((c.toNat : Int) + shift).toNat
  | none => c

/-- Whether the first character that counts is a letter with case. -/
def meetsCased (neighbours : List Char) : Bool :=
  ((neighbours.dropWhile ignorable.contains).head?).any cased.contains

/-- The lower case of the characters after `before`, which is given last character first. -/
def mapFrom (before : List Char) : List Char → List Char
  | [] => []
  | c :: rest =>
    (if c = 'İ' then ['i', '\u0307']
     else if c = 'Σ' then [if meetsCased before && !meetsCased rest then 'ς' else 'σ']
     else [mapChar c]) ++ mapFrom (c :: before) rest

def text (s : String) : String :=
  String.ofList (mapFrom [] s.toList)

end EdgeRouting.Lowercase
