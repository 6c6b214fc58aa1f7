/-!
# JSON documents

A document keeps its members in the order of the text, repeated keys included, and says where the
text stops being JSON: there stands a broken value and nothing after it. So a reader of the document
meets its faults in the order of the text.
-/

namespace EdgeRouting.Json

/-- A string of the text; none if it holds half of a surrogate pair and so is no text. -/
abbrev Text := Option String

inductive Value
  | null
  | bool (b : Bool)
  | natural (n : Nat)
  /-- A number that is negative or has a fraction or an exponent. -/
  | otherNumber
  | string (text : Text)
  | array (items : List Value)
  | object (members : List (Text × Value))
  | broken
  deriving Repr

namespace Value

def text (s : String) : Value := .string (some s)

def record (fields : List (String × Value)) : Value :=
  .object (fields.map fun (name, value) => (some name, value))

mutual

/-- Whether the text of a value is JSON to its end. -/
def isIntact : Value → Bool
  | .array items => areIntact items
  | .object members => membersIntact members
  | .broken => false
  | _ => true

def areIntact : List Value → Bool
  | [] => true
  | item :: items => isIntact item && areIntact items

def membersIntact : List (Text × Value) → Bool
  | [] => true
  | (_, value) :: members => isIntact value && membersIntact members

end

end Value

end EdgeRouting.Json
