/-! # Ranges of characters

Properties of characters beyond ASCII are given by ranges of their codes. -/

namespace DocSite.Text

/-- Inclusive ranges of codes. -/
abbrev Ranges := List (Nat × Nat)

/-- Whether a code lies in one of the ranges. -/
def Ranges.covers (ranges : Ranges) (code : Nat) : Bool :=
  ranges.any fun (low, high) => low ≤ code && code ≤ high

end DocSite.Text
