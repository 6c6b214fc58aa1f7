/-!
# Digits

Numbers written in digits of a base up to sixteen, in either letter case.
-/

namespace EdgeRouting.Digits

def value? (c : Char) : Option Nat :=
  if '0' ≤ c ∧ c ≤ '9' then some (c.toNat - 48)
  else if 'a' ≤ c ∧ c ≤ 'f' then some (c.toNat - 87)
  else if 'A' ≤ c ∧ c ≤ 'F' then some (c.toNat - 55)
  else none

def digit? (base : Nat) (c : Char) : Option Nat :=
  (value? c).filter (· < base)

def number? (base : Nat) (digits : List Char) : Option Nat :=
  digits.foldlM (fun n c => (digit? base c).map (n * base + ·)) 0

/-- Reads the digits at the front, of which there is at least one: the digits, their number and the
rest. -/
def read? (base : Nat) (text : List Char) : Option (List Char × Nat × List Char) := do
  let digits := text.takeWhile fun c => (digit? base c).isSome
  if digits.isEmpty then none
  return (digits, ← number? base digits, text.dropWhile fun c => (digit? base c).isSome)

end EdgeRouting.Digits
