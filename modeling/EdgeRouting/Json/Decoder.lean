import EdgeRouting.Json.Value

/-!
# Typed reading of JSON

A decoder takes a value to what it stands for. Decoders run in the order of the text, so the fault
that is reported is the first one. A record may be written as an object, or as an array of its
fields in order.
-/

namespace EdgeRouting.Json

inductive Fault (ε : Type)
  /-- The text is no JSON or not of the expected shape. -/
  | malformed
  /-- The shape is right, and what it says is refused. -/
  | rejected (reason : ε)
  deriving DecidableEq, Repr

variable {ε α σ : Type}

namespace Value

def asText : Value → Except (Fault ε) String
  | .string (some s) => .ok s
  | _ => .error .malformed

/-- A name, or an object that pairs the name with null. -/
def asTag : Value → Except (Fault ε) String
  | .object [(some s, .null)] => .ok s
  | value => value.asText

def asBool : Value → Except (Fault ε) Bool
  | .bool b => .ok b
  | _ => .error .malformed

def asNatural (limit : Nat) : Value → Except (Fault ε) Nat
  | .natural n => if n < limit then .ok n else .error .malformed
  | _ => .error .malformed

def asList (item : Value → Except (Fault ε) α) : Value → Except (Fault ε) (List α)
  | .array items => items.mapM item
  | _ => .error .malformed

/-- The members of a record with these fields. Items beyond the last field are a fault. -/
def members (names : List String) : Value → List (Text × Value)
  | .object members => members
  | .array items =>
    (names.map some).zip items ++ (if names.length < items.length then [(none, .broken)] else [])
  | _ => [(none, .broken)]

/-- Takes one member into a draft. Unknown names are passed over. -/
def takeMember (names : List String) (step : σ → String → Value → Except (Fault ε) σ) (draft : σ) :
    Text × Value → Except (Fault ε) σ
  | (none, _) => .error .malformed
  | (some name, value) =>
    if name ∈ names then step draft name value
    else if value.isIntact then .ok draft
    else .error .malformed

def foldRecord (names : List String) (step : σ → String → Value → Except (Fault ε) σ) (empty : σ)
    (value : Value) : Except (Fault ε) σ :=
  (value.members names).foldlM (takeMember names step) empty

end Value

def once (slot : Option α) (read : Except (Fault ε) α) : Except (Fault ε) (Option α) :=
  if slot.isSome then .error .malformed else read.map some

def required (slot : Option α) : Except (Fault ε) α :=
  match slot with
  | some value => .ok value
  | none => .error .malformed

end EdgeRouting.Json
