import LineFold.Scan

/-! Rules compiled once, giving the ranges of any number of documents. They may ask that ranges
be clamped to the document. -/
namespace LineFold
open Pattern (Line)

structure RuleSet where
  rules : List Rule
  clamps : Bool

namespace RuleSet

def compile (compiler : Pattern.Compiler) (configuration : Value) (clamps : Bool) :
    Rule.CompileM RuleSet :=
  return ⟨← Rule.compileConfiguration compiler configuration, clamps⟩

/-- What is reported once the rules are compiled. -/
def report (set : RuleSet) : String :=
  "Compiled " ++ toString set.rules.length ++ " folding rule(s)"

/-- The ranges of a document in closing order, clamped to it where the set asks for it. -/
def ranges (set : RuleSet) (lines : List Line) : List Range :=
  let found := Scan.scan set.rules lines
  if set.clamps then Range.clampAll lines.length found else found

end RuleSet

end LineFold
