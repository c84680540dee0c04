/-! Ranges of lines that can be folded, both ends included and counted from zero. -/
namespace LineFold

structure Range where
  startLine : Int
  endLine : Int
  deriving DecidableEq

namespace Range

/-- The part of a range that lies in a document of `lineCount` lines, unless it is empty. -/
def clamp? (lineCount : Int) (range : Range) : Option Range :=
  let startLine := max range.startLine 0
  let endLine := min range.endLine (lineCount - 1)
  if endLine < startLine then none else some ⟨startLine, endLine⟩

def clampAll (lineCount : Int) (ranges : List Range) : List Range :=
  ranges.filterMap (clamp? lineCount)

/-- By first line, then by last line. -/
def isBefore (a b : Range) : Bool :=
  a.startLine < b.startLine || (a.startLine = b.startLine && a.endLine ≤ b.endLine)

def sort (ranges : List Range) : List Range := ranges.mergeSort isBefore

end Range

end LineFold
