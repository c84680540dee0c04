import LineFold.Proofs.Scan.Closing

/-! Without offsets the ranges of a document are nested or disjoint. Of two pairs of markers the one
resolved later opened below the other one on the stack, and so on no later line, or was opened once
the other one was closed. Markers of other rules, pairs on one line and vetoes make no difference:
they only keep pairs from giving a range. -/
namespace LineFold
open Pattern (Line)

namespace Range

def Within (inner outer : Range) : Prop :=
  outer.startLine ≤ inner.startLine ∧ inner.endLine ≤ outer.endLine

/-- Whether two ranges share a line though neither contains the other. -/
def Crosses (a b : Range) : Prop :=
  (∃ line, a.startLine ≤ line ∧ line ≤ a.endLine ∧ b.startLine ≤ line ∧ line ≤ b.endLine) ∧
    ¬ a.Within b ∧ ¬ b.Within a

lemma not_crosses {a b : Range} (h : a.Within b ∨ a.endLine < b.startLine) : ¬ a.Crosses b := by
  rintro ⟨⟨line, -, hend, hstart, -⟩, hwithin, -⟩
  rcases h with h | h
  · exact hwithin h
  · omega

end Range

namespace Scan

lemma range_eq_of_zero {rules : List Rule} {lines : List Line} {closing : Closing}
    (zero : ∀ rule ∈ rules, rule.topOffset = 0 ∧ rule.bottomOffset = 0)
    (h : closing ∈ closings rules lines) :
    closing.range = ⟨closing.opener.event.index, closing.closer.event.index - 1⟩ := by
  obtain ⟨htop, hbottom⟩ := zero _ (opener_rule_mem h)
  rw [Closing.range, htop, hbottom, Int.add_zero, Int.add_zero]

/-- Of two ranges the later one contains the earlier one or starts behind its end; hence no two
ranges cross and end lines never decrease. -/
theorem scan_nested_or_disjoint (rules : List Rule) (lines : List Line)
    (zero : ∀ rule ∈ rules, rule.topOffset = 0 ∧ rule.bottomOffset = 0) :
    (scan rules lines).Pairwise fun r s =>
      (r.Within s ∨ r.endLine < s.startLine) ∧ ¬ r.Crosses s ∧ r.endLine ≤ s.endLine := by
  rw [scan_eq_map_range, List.pairwise_map]
  have hpairs := closings_pairwise (place_pairwise_index rules lines)
  refine List.Pairwise.imp_of_mem ?_ (hpairs.filter _)
  intro a b ha hb horder
  have hrange := range_eq_of_zero zero (List.mem_filter.mp ha).1
  have hrange' := range_eq_of_zero zero (List.mem_filter.mp hb).1
  obtain ⟨hcloser, hopener⟩ := horder
  have hends : a.range.endLine ≤ b.range.endLine := by
    rw [hrange, hrange']
    simp only
    omega
  have hnested : a.range.Within b.range ∨ a.range.endLine < b.range.startLine := by
    rw [hrange, hrange'] at hends ⊢
    rcases hopener with hbelow | hbehind
    · exact Or.inl ⟨by simp only; omega, hends⟩
    · exact Or.inr (by simp only; omega)
  exact ⟨hnested, Range.not_crosses hnested, hends⟩

/-- Rules that interleave: the last closing marker gives up the region opened within. -/
theorem scan_nested_or_disjoint_interleaved :
    (∀ rule ∈ [bracketRule 0 '(' ')', bracketRule 1 '<' '>'],
      rule.topOffset = 0 ∧ rule.bottomOffset = 0) ∧
    (scan [bracketRule 0 '(' ')', bracketRule 1 '<' '>']
      (["(", "<", "x", ">", "<", "y", ")"].map Line.ofText)).Pairwise fun r s =>
        (r.Within s ∨ r.endLine < s.startLine) ∧ ¬ r.Crosses s ∧ r.endLine ≤ s.endLine :=
  ⟨by decide, scan_nested_or_disjoint _ _ (by decide)⟩

example : scan [bracketRule 0 '(' ')', bracketRule 1 '<' '>']
    (["(", "<", "x", ">", "<", "y", ")"].map Line.ofText) = [⟨1, 2⟩, ⟨0, 5⟩] := by
  decide

end Scan

end LineFold
