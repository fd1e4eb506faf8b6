namespace Rebac.Text

/-!
# Sets of characters given by ranges

A character class of the Unicode standard is a list of ranges of code points, each given by its
first and last member.
-/

/-- A class of characters as the list of its ranges, both ends included. -/
abbrev Ranges := List (Nat × Nat)

/-- `true` iff the code point of `c` lies in one of the ranges. -/
def Ranges.contains (rs : Ranges) (c : Char) : Bool :=
  rs.any fun r => r.1 ≤ c.toNat && c.toNat ≤ r.2

end Rebac.Text
