import LineFold.Proofs.Rule.Literal
import LineFold.Proofs.Scan.Nesting
import LineFold.RuleSet

/-! Clamping where offsets only make ranges smaller. The markers of a pair that folds stand on two
lines of the document. So without offsets every range lies in the document and is not empty, and
offsets that move first lines down and last lines up keep it from leaving the document, though it may
become empty. Clamping then changes no bound: it takes the empty ranges away. -/
namespace LineFold
open Pattern (Line)

namespace Range

/-- Whether a range starts no sooner and ends no later than a document. It may be empty. -/
structure Inside (lineCount : Int) (range : Range) : Prop where
  startLine_nonneg : 0 ≤ range.startLine
  endLine_lt : range.endLine < lineCount

variable {lineCount : Int} {range : Range} {ranges : List Range}

lemma clamp?_of_inside (inside : range.Inside lineCount) :
    range.clamp? lineCount = if range.startLine ≤ range.endLine then some range else none := by
  obtain ⟨hnonneg, hlt⟩ := inside
  have hstart : max range.startLine 0 = range.startLine := by omega
  have hend : min range.endLine (lineCount - 1) = range.endLine := by omega
  rw [clamp?, hstart, hend]
  by_cases hle : range.startLine ≤ range.endLine
  · rw [if_pos hle, if_neg (Int.not_lt.mpr hle)]
  · rw [if_neg hle, if_pos (Int.not_le.mp hle)]

lemma clampAll_of_inside (inside : ∀ range ∈ ranges, range.Inside lineCount) :
    clampAll lineCount ranges = ranges.filter fun range => range.startLine ≤ range.endLine := by
  induction ranges with
  | nil => rfl
  | cons range rest ih =>
    obtain ⟨hrange, hrest⟩ := List.forall_mem_cons.mp inside
    have ih := ih hrest
    rw [clampAll] at ih ⊢
    by_cases hle : range.startLine ≤ range.endLine
    · simp [clamp?_of_inside hrange, hle, ih]
    · simp [clamp?_of_inside hrange, hle, ih]

end Range

namespace Scan

variable {rules : List Rule} {lines : List Line} {range : Range}

/-- Offsets that make ranges smaller keep them inside the document. -/
theorem inside_of_mem_scan (shrinks : ∀ rule ∈ rules, 0 ≤ rule.topOffset ∧ rule.bottomOffset ≤ 0)
    (h : range ∈ scan rules lines) : range.Inside lines.length := by
  obtain ⟨closing, hmem, -, rfl⟩ := exists_closing_of_mem_scan h
  obtain ⟨htop, hbottom⟩ := shrinks _ (opener_rule_mem hmem)
  have hlast := closer_index_lt_length hmem
  constructor
  · simp only [Closing.range]
    omega
  · simp only [Closing.range]
    omega

/-- Without offsets no range is empty. -/
theorem startLine_le_endLine_of_mem_scan
    (zero : ∀ rule ∈ rules, rule.topOffset = 0 ∧ rule.bottomOffset = 0)
    (h : range ∈ scan rules lines) : range.startLine ≤ range.endLine := by
  obtain ⟨closing, hmem, folds, rfl⟩ := exists_closing_of_mem_scan h
  have hlt := opener_index_lt hmem folds
  rw [range_eq_of_zero zero hmem]
  simp only
  omega

end Scan

namespace RuleSet

variable {compiler : Pattern.Compiler} {configuration : Value} {rules : List Rule}
  {warnings : List Rule.Warning}

lemma logged_compile
    (compiled : Rule.logged (Rule.compileConfiguration compiler configuration) = (.ok rules, warnings))
    (clamps : Bool) :
    Rule.logged (compile compiler configuration clamps) = (.ok ⟨rules, clamps⟩, warnings) := by
  rw [Rule.logged] at compiled ⊢
  rw [compile, ExceptT.run_bind, StateT.run_bind, compiled]
  rfl

/-- A configuration whose rules make ranges smaller by their offsets gives a set that clamps and one
that does not. The one that clamps leaves the empty ranges of the other one out and changes nothing
else; and without offsets both give the same ranges, which lie in the document. -/
theorem clamped_ranges (compiler : Pattern.Compiler) (configuration : Value) (rules : List Rule)
    (warnings : List Rule.Warning) (lines : List Line)
    (compiled : Rule.logged (Rule.compileConfiguration compiler configuration) = (.ok rules, warnings))
    (shrinks : ∀ rule ∈ rules, 0 ≤ rule.topOffset ∧ rule.bottomOffset ≤ 0) :
    ∃ clamped plain : RuleSet,
      Rule.logged (compile compiler configuration true) = (.ok clamped, warnings) ∧
      Rule.logged (compile compiler configuration false) = (.ok plain, warnings) ∧
      clamped.ranges lines =
        (plain.ranges lines).filter (fun range => range.startLine ≤ range.endLine) ∧
      ((∀ rule ∈ rules, rule.topOffset = 0 ∧ rule.bottomOffset = 0) →
        clamped.ranges lines = plain.ranges lines ∧
        ∀ range ∈ plain.ranges lines,
          0 ≤ range.startLine ∧ range.startLine ≤ range.endLine ∧
            range.endLine < lines.length) := by
  have hclamped : ranges ⟨rules, true⟩ lines =
      (Scan.scan rules lines).filter fun range => range.startLine ≤ range.endLine :=
    Range.clampAll_of_inside fun _ h => Scan.inside_of_mem_scan shrinks h
  refine ⟨⟨rules, true⟩, ⟨rules, false⟩, logged_compile compiled true,
    logged_compile compiled false, hclamped, fun zero => ⟨?_, fun range h => ?_⟩⟩
  · rw [hclamped]
    refine List.filter_eq_self.mpr fun range h => ?_
    exact decide_eq_true (Scan.startLine_le_endLine_of_mem_scan zero h)
  · obtain ⟨hstart, hend⟩ := Scan.inside_of_mem_scan shrinks h
    exact ⟨hstart, Scan.startLine_le_endLine_of_mem_scan zero h, hend⟩

/-- The rule of two brackets, with ranges that start a number of lines further down. -/
def loweredRule (count : Int) : Rule :=
  { Rule.LiteralFields.rule ⟨"(", ")", none, none, none⟩ 0 with topOffset := count }

def loweredConfiguration (count : Int) : Value :=
  .list [.map [("begin", .text "("), ("end", .text ")"), ("offsetTop", .int count)]]

/-- A region of two lines that is empty once it starts a line further down, and one of four lines;
and both without offsets. -/
theorem clamped_ranges_lowered :
    Rule.logged (Rule.compileConfiguration .plain (loweredConfiguration 1)) =
      (.ok [loweredRule 1], []) ∧
    (∀ rule ∈ [loweredRule 1], 0 ≤ rule.topOffset ∧ rule.bottomOffset ≤ 0) ∧
    (∃ clamped plain : RuleSet,
      Rule.logged (compile .plain (loweredConfiguration 1) true) = (.ok clamped, []) ∧
      Rule.logged (compile .plain (loweredConfiguration 1) false) = (.ok plain, []) ∧
      clamped.ranges (["(", ")", "(", "x", "y", ")"].map Line.ofText) =
        (plain.ranges (["(", ")", "(", "x", "y", ")"].map Line.ofText)).filter
          (fun range => range.startLine ≤ range.endLine)) ∧
    (∀ rule ∈ [loweredRule 0], rule.topOffset = 0 ∧ rule.bottomOffset = 0) ∧
    ∃ clamped plain : RuleSet,
      Rule.logged (compile .plain (loweredConfiguration 0) true) = (.ok clamped, []) ∧
      Rule.logged (compile .plain (loweredConfiguration 0) false) = (.ok plain, []) ∧
      clamped.ranges (["(", ")", "(", "x", "y", ")"].map Line.ofText) =
        plain.ranges (["(", ")", "(", "x", "y", ")"].map Line.ofText) ∧
      ∀ range ∈ plain.ranges (["(", ")", "(", "x", "y", ")"].map Line.ofText),
        0 ≤ range.startLine ∧ range.startLine ≤ range.endLine ∧ range.endLine < (6 : Nat) := by
  have lowered : ∀ rule ∈ [loweredRule 1], 0 ≤ rule.topOffset ∧ rule.bottomOffset ≤ 0 := by
    decide
  have level : ∀ rule ∈ [loweredRule 0], 0 ≤ rule.topOffset ∧ rule.bottomOffset ≤ 0 := by
    decide
  have zero : ∀ rule ∈ [loweredRule 0], rule.topOffset = 0 ∧ rule.bottomOffset = 0 := by decide
  obtain ⟨clamped, plain, hclamped, hplain, hranges, -⟩ :=
    clamped_ranges .plain (loweredConfiguration 1) [loweredRule 1] []
      (["(", ")", "(", "x", "y", ")"].map Line.ofText) rfl lowered
  obtain ⟨same, other, hsame, hother, -, hzero⟩ :=
    clamped_ranges .plain (loweredConfiguration 0) [loweredRule 0] []
      (["(", ")", "(", "x", "y", ")"].map Line.ofText) rfl level
  exact ⟨rfl, lowered, ⟨clamped, plain, hclamped, hplain, hranges⟩, zero,
    ⟨same, other, hsame, hother, hzero zero⟩⟩

example : ranges ⟨[loweredRule 1], false⟩ (["(", ")", "(", "x", "y", ")"].map Line.ofText) =
    [⟨1, 0⟩, ⟨3, 4⟩] := by
  decide

example : ranges ⟨[loweredRule 1], true⟩ (["(", ")", "(", "x", "y", ")"].map Line.ofText) =
    [⟨3, 4⟩] := by
  decide

end RuleSet

end LineFold
