import LineFold.Range
import LineFold.Text.Integer

/-! Ranges as text: a pair of numbers with a dash between them on each line, or one array of
objects. A number of more digits than can be read back is not written. -/
namespace LineFold

inductive Format where
  | text
  | json
  deriving DecidableEq

/-- The two numbers of a range, counted from one where `oneBased` says so. -/
def Range.shown (oneBased : Bool) (range : Range) : Int × Int :=
  if oneBased then (range.startLine + 1, range.endLine + 1) else (range.startLine, range.endLine)

def pairText (pair : Int × Int) : String := toString pair.1 ++ "-" ++ toString pair.2 ++ "\n"

def pairJson (pair : Int × Int) : String :=
  "\x7b\"start\": " ++ toString pair.1 ++ ", \"end\": " ++ toString pair.2 ++ "\x7d"

def pairsText : Format → List (Int × Int) → String
  | .text, pairs => String.join (pairs.map pairText)
  | .json, pairs => "[" ++ String.intercalate ", " (pairs.map pairJson) ++ "]\n"

/-- The text of ranges; none where a number has too many digits. -/
def Range.render? (format : Format) (oneBased : Bool) (ranges : List Range) : Option String :=
  let pairs := ranges.map (Range.shown oneBased)
  if pairs.all fun pair => Text.isWritable pair.1 && Text.isWritable pair.2 then
    some (pairsText format pairs)
  else none

end LineFold
