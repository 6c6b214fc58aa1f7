/-!
# TOML values

What a document says. Of floating point numbers and of dates and times it is only known that they
are such.
-/

namespace EdgeRouting.Toml

inductive Value
  | string (text : String)
  | integer (n : Int)
  | boolean (b : Bool)
  | float
  | dateTime
  | array (items : List Value)
  | table (entries : List (String × Value))
  deriving Repr

namespace Value

def asText? : Value → Option String
  | .string text => some text
  | _ => none

def asBool? : Value → Option Bool
  | .boolean b => some b
  | _ => none

def asNatural? : Value → Option Nat
  | .integer n => if 0 ≤ n then some n.toNat else none
  | _ => none

def asList? {α : Type} (item : Value → Option α) : Value → Option (List α)
  | .array items => items.mapM item
  | _ => none

/-- The fields of a record with these names, in a table or in order in an array. A date has none of
them. -/
def fields? (names : List String) : Value → Option (List (String × Value))
  | .table entries => some entries
  | .array items => some (names.zip items)
  | .dateTime => some []
  | _ => none

end Value

def required? {α : Type} (fields : List (String × Value)) (name : String)
    (read : Value → Option α) : Option α :=
  (fields.lookup name).bind read

def field? {α : Type} (fields : List (String × Value)) (name : String) (absent : α)
    (read : Value → Option α) : Option α :=
  match fields.lookup name with
  | none => some absent
  | some value => read value

end EdgeRouting.Toml
