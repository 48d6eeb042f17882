/-!
# Sets of characters as ranges of code points

A character class is a list of closed ranges. The lists hold no range below 128: every class that
uses them states its ASCII part as a formula, so that facts about ASCII text need no table.
-/

namespace WidgetBuilders.Text

/-- Closed ranges of code points, in increasing order. -/
abbrev Ranges := List (Nat × Nat)

/-- Some range has `code` between its two ends, both included. -/
def Ranges.contains (ranges : Ranges) (code : Nat) : Bool :=
  ranges.any fun range => range.1 ≤ code && code ≤ range.2

end WidgetBuilders.Text
