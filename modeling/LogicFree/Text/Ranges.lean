/-! Sets of characters as ascending ranges of code points. -/

namespace LogicFree.Text

/-- Closed ranges of code points, disjoint and in ascending order. -/
abbrev Ranges := List (Nat × Nat)

/-- Membership. The search ends at the first range that begins above the
character, because no later range can hold it. -/
def Ranges.contains : Ranges → Char → Bool
  | [], _ => false
  | (low, high) :: rest, c =>
    if c.toNat < low then false
    else if c.toNat ≤ high then true
    else Ranges.contains rest c

end LogicFree.Text
