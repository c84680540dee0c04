/-! Sets of code points given as ascending, disjoint closed ranges. -/
namespace LineFold.Unicode

/-- Binary search: the ranges before `lo` end below `code`, those from `hi` on start above it. -/
def inRangesBetween (ranges : Array (Nat × Nat)) (code lo hi : Nat) : Bool :=
  if lo < hi then
    let mid := lo + (hi - lo) / 2
    match ranges[mid]? with
    | none => false
    | some (first, last) =>
      if code < first then inRangesBetween ranges code lo mid
      else if last < code then inRangesBetween ranges code (mid + 1) hi
      else true
  else false
termination_by hi - lo

def inRanges (ranges : Array (Nat × Nat)) (code : Nat) : Bool :=
  inRangesBetween ranges code 0 ranges.size

end LineFold.Unicode
