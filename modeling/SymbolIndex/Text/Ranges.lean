/-!
# Tables of character ranges

A character property is given as an ascending table of disjoint ranges of code points. Membership
is decided by halving the table: `searchBelow` looks in the rows below `high` that are not below
`low`.
-/

namespace SymbolIndex.Text

/-- Ascending, disjoint ranges of code points, both ends included. -/
abbrev Ranges := Array (Nat × Nat)

/-- Whether some row with an index in `[low, high)` holds `code`. -/
def Ranges.searchBelow (table : Ranges) (code low high : Nat) : Bool :=
  if low < high then
    let mid := low + (high - low) / 2
    match table[mid]? with
    | none => false
    | some (first, last) =>
      if code < first then table.searchBelow code low mid
      else if last < code then table.searchBelow code (mid + 1) high
      else true
  else false
termination_by high - low
decreasing_by all_goals omega

/-- Whether the character lies in one of the ranges. -/
def Ranges.contains (table : Ranges) (c : Char) : Bool :=
  table.searchBelow c.toNat 0 table.size

end SymbolIndex.Text
