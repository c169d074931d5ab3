/-!
Sets of characters, given by ranges of their codes. The long ones are tables of the properties that
Unicode 17 gives to characters.
-/

namespace GraphLoad.Text

/-- A set of characters: those whose codes lie in one of the ranges, both ends included. -/
structure CharSet where
  ranges : List (Nat × Nat)
deriving DecidableEq, Repr

namespace CharSet

def contains (s : CharSet) (c : Char) : Bool :=
  s.ranges.any fun (first, last) => first ≤ c.toNat && c.toNat ≤ last

end CharSet
end GraphLoad.Text
