/-! # Ranges of code points

A property of characters is written as a list of closed ranges of code points. `inRanges` is the
membership test. -/

namespace RouteAudit.Text

/-- A closed range of code points, from its first to its last. -/
abbrev CodeRange := Nat × Nat

/-- Some range of the table holds the code point. -/
def inRanges (table : List CodeRange) (n : Nat) : Bool :=
  table.any fun r => decide (r.1 ≤ n) && decide (n ≤ r.2)

end RouteAudit.Text
