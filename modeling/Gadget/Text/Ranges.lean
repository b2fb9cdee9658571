/-!
# Ranges of code points

A property of characters is kept as the ranges of code points that have it, both ends included.
-/
namespace Gadget.Text

/-- A set of code points. -/
abbrev Ranges := Array (Nat × Nat)

/-- Whether a character is in the set. -/
def Ranges.has (ranges : Ranges) (c : Char) : Bool :=
  ranges.any fun (first, last) => first ≤ c.toNat && c.toNat ≤ last

end Gadget.Text
