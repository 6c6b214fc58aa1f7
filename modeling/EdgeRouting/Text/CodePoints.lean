/-!
# Sets of characters
-/

namespace EdgeRouting

/-- Code points by runs, each with its first and its last. -/
abbrev CodePoints := Array (Nat × Nat)

def CodePoints.contains (table : CodePoints) (c : Char) : Bool :=
  table.any fun (first, last) => first ≤ c.toNat && c.toNat ≤ last

end EdgeRouting
