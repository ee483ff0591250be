/-!
Sets of characters given as ranges of code points.
-/
namespace TestSelection.Text

/-- A set of code points as a table of inclusive ranges in increasing order. -/
structure CodeRanges where
  ranges : Array (Nat × Nat)

namespace CodeRanges

/-- The halving search between two indices; the ranges below `lo` end before the code point and
those from `hi` on start after it. -/
def searchBetween (t : CodeRanges) (code lo hi : Nat) : Bool :=
  if _ : lo < hi then
    let mid := (lo + hi) / 2
    match t.ranges[mid]? with
    | none => false
    | some (first, last) =>
      if code < first then searchBetween t code lo mid
      else if last < code then searchBetween t code (mid + 1) hi
      else true
  else false
termination_by hi - lo

/-- A character belongs to the set when some range holds its code point. -/
def contains (t : CodeRanges) (c : Char) : Bool :=
  t.searchBetween c.toNat 0 t.ranges.size

end CodeRanges

end TestSelection.Text
