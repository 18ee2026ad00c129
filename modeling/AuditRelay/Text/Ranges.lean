/-!
# Ranges of code points

A table of characters is a list of ranges, each from its first code point to its last.
-/

namespace AuditRelay.Text

/-- Ranges of code points. -/
abbrev Ranges := List (Nat × Nat)

/-- Whether a code point is in one of the ranges. -/
def Ranges.contains (rs : Ranges) (n : Nat) : Bool :=
  rs.any fun r => r.1 ≤ n && n ≤ r.2

end AuditRelay.Text
