import LineFold.Range
import Mathlib.Data.Finset.Range
import Mathlib.Data.Finset.Image
import Mathlib.Data.List.Forall2
import Mathlib.Tactic.Lemma

/-! Clamping as intersection. A range stands for the set of lines from its first to its last one, which
is empty where it ends before it starts, and a document for the set of its lines. Clamping keeps the
ranges that have a line in the document, and leaves them the lines they have there. Two cuts one after
the other are then one cut, to the shorter document. -/
namespace LineFold.Range

/-- So many lines from a first one on. -/
def linesFrom (first : Int) (count : Nat) : Finset Int :=
  (Finset.range count).image fun i : Nat => first + i

/-- The lines of a range: none where it ends before it starts. -/
def lines (range : Range) : Finset Int :=
  linesFrom range.startLine (range.endLine + 1 - range.startLine).toNat

/-- The lines of a document of `lineCount` lines. -/
def documentLines (lineCount : Int) : Finset Int := linesFrom 0 lineCount.toNat

variable {range clamped : Range} {lineCount : Int}

section Lines

lemma mem_linesFrom {first i : Int} {count : Nat} :
    i ∈ linesFrom first count ↔ first ≤ i ∧ i < first + count := by
  rw [linesFrom, Finset.mem_image]
  constructor
  · rintro ⟨j, hj, rfl⟩
    have hlt := Finset.mem_range.mp hj
    omega
  · rintro ⟨hle, hlt⟩
    have hindex : (i - first).toNat < count := by omega
    exact ⟨(i - first).toNat, Finset.mem_range.mpr hindex, by omega⟩

lemma mem_lines {i : Int} : i ∈ range.lines ↔ range.startLine ≤ i ∧ i ≤ range.endLine := by
  rw [lines, mem_linesFrom]
  omega

lemma mem_documentLines {i : Int} : i ∈ documentLines lineCount ↔ 0 ≤ i ∧ i < lineCount := by
  rw [documentLines, mem_linesFrom]
  omega

lemma lines_nonempty_iff : range.lines.Nonempty ↔ range.startLine ≤ range.endLine := by
  constructor
  · rintro ⟨i, hmem⟩
    obtain ⟨hfirst, hlast⟩ := mem_lines.mp hmem
    omega
  · intro hle
    exact ⟨range.startLine, mem_lines.mpr ⟨by omega, hle⟩⟩

/-- A range that is not empty is told by its lines. -/
lemma eq_of_lines_eq (same : range.lines = clamped.lines) (nonempty : range.lines.Nonempty) :
    range = clamped := by
  have hrange := lines_nonempty_iff.mp nonempty
  have hclamped := lines_nonempty_iff.mp (same ▸ nonempty)
  have iff (i : Int) := by
    have hmem : i ∈ range.lines ↔ i ∈ clamped.lines := by rw [same]
    rwa [mem_lines, mem_lines] at hmem
  have hfirst := (iff range.startLine).mp ⟨le_rfl, hrange⟩
  have hlast := (iff range.endLine).mp ⟨hrange, le_rfl⟩
  have hfirst' := (iff clamped.startLine).mpr ⟨le_rfl, hclamped⟩
  have hlast' := (iff clamped.endLine).mpr ⟨hclamped, le_rfl⟩
  have hstart : range.startLine = clamped.startLine := by omega
  have hend : range.endLine = clamped.endLine := by omega
  cases range
  cases clamped
  simp_all

/-- The lines that a range has in a document are those between two bounds again. -/
lemma lines_inter (range : Range) (lineCount : Int) :
    range.lines ∩ documentLines lineCount =
      lines ⟨max range.startLine 0, min range.endLine (lineCount - 1)⟩ := by
  ext i
  simp only [Finset.mem_inter, mem_lines, mem_documentLines, max_le_iff, le_min_iff]
  omega

lemma documentLines_inter (m n : Int) :
    documentLines n ∩ documentLines m = documentLines (min m n) := by
  ext i
  simp only [Finset.mem_inter, mem_documentLines, lt_min_iff]
  omega

end Lines

section Clamp

/-- What a range is clamped to is the range of the lines that it has in the document. -/
lemma clamp?_eq_some_iff :
    range.clamp? lineCount = some clamped ↔
      clamped.lines = range.lines ∩ documentLines lineCount ∧ clamped.lines.Nonempty := by
  rw [lines_inter, clamp?]
  constructor
  · intro h
    split at h
    · cases h
    · rename_i hle
      cases h
      exact ⟨rfl, lines_nonempty_iff.mpr (Int.not_lt.mp hle)⟩
  · rintro ⟨same, nonempty⟩
    have heq := eq_of_lines_eq same nonempty
    rw [heq, lines_nonempty_iff] at nonempty
    rw [if_neg (Int.not_lt.mpr nonempty), heq]

lemma clamp?_eq_none_iff :
    range.clamp? lineCount = none ↔ ¬(range.lines ∩ documentLines lineCount).Nonempty := by
  rw [lines_inter, lines_nonempty_iff, not_le, clamp?]
  split
  · rename_i hlt
    exact ⟨fun _ => hlt, fun _ => rfl⟩
  · rename_i hle
    exact ⟨fun h => absurd h (Option.some_ne_none _), fun hlt => absurd hlt hle⟩

lemma bounds_of_clamp? (h : range.clamp? lineCount = some clamped) :
    0 ≤ clamped.startLine ∧ clamped.startLine ≤ clamped.endLine ∧ clamped.endLine < lineCount := by
  obtain ⟨same, nonempty⟩ := clamp?_eq_some_iff.mp h
  rw [lines_inter] at same
  have hle := lines_nonempty_iff.mp nonempty
  rw [eq_of_lines_eq same nonempty] at hle ⊢
  simp only at hle ⊢
  omega

/-- Clamped to one document and then to another, a range has the lines that it has in both. -/
lemma clamp?_bind_clamp? (range : Range) (m n : Int) :
    (range.clamp? n).bind (clamp? m) = range.clamp? (min m n) := by
  ext clamped
  rw [Option.bind_eq_some_iff, clamp?_eq_some_iff, ← documentLines_inter, ← Finset.inter_assoc]
  constructor
  · rintro ⟨middle, hmiddle, hclamped⟩
    obtain ⟨same, nonempty⟩ := clamp?_eq_some_iff.mp hclamped
    rw [(clamp?_eq_some_iff.mp hmiddle).1] at same
    exact ⟨same, nonempty⟩
  · rintro ⟨same, nonempty⟩
    cases hmiddle : range.clamp? n with
    | none =>
      have hinter : (range.lines ∩ documentLines n).Nonempty :=
        (same ▸ nonempty).mono Finset.inter_subset_left
      exact absurd hinter (clamp?_eq_none_iff.mp hmiddle)
    | some middle =>
      refine ⟨middle, rfl, clamp?_eq_some_iff.mpr ⟨?_, nonempty⟩⟩
      rw [same, (clamp?_eq_some_iff.mp hmiddle).1]

end Clamp

variable {ranges : List Range}

lemma forall₂_clampAll (lineCount : Int) (ranges : List Range) :
    List.Forall₂ (fun range clamped => clamped.lines = range.lines ∩ documentLines lineCount)
      (ranges.filter fun range => (range.lines ∩ documentLines lineCount).Nonempty)
      (clampAll lineCount ranges) := by
  induction ranges with
  | nil => exact .nil
  | cons range rest ih =>
    rw [clampAll] at ih ⊢
    cases hclamp : range.clamp? lineCount with
    | none =>
      rw [List.filterMap_cons_none hclamp, List.filter_cons_of_neg]
      · exact ih
      · simpa using clamp?_eq_none_iff.mp hclamp
    | some clamped =>
      obtain ⟨same, nonempty⟩ := clamp?_eq_some_iff.mp hclamp
      rw [List.filterMap_cons_some hclamp, List.filter_cons_of_pos]
      · exact .cons same ih
      · exact decide_eq_true (same ▸ nonempty)

lemma bounds_of_mem_clampAll (h : clamped ∈ clampAll lineCount ranges) :
    0 ≤ clamped.startLine ∧ clamped.startLine ≤ clamped.endLine ∧ clamped.endLine < lineCount := by
  obtain ⟨range, -, hclamp⟩ := List.mem_filterMap.mp h
  exact bounds_of_clamp? hclamp

lemma clampAll_clampAll (m n : Int) (ranges : List Range) :
    clampAll m (clampAll n ranges) = clampAll (min m n) ranges := by
  simp only [clampAll, List.filterMap_filterMap, clamp?_bind_clamp?]

/-- Of ranges with any bounds, clamping keeps those that have a line in the document, in their order, and
replaces each by the range of the lines it has there, which lies in the document and is not empty.
Clamping twice is clamping once to the shorter document; so clamping again changes nothing. -/
theorem clampAll_intersects_document (lineCount : Int) (ranges : List Range) :
    List.Forall₂ (fun range clamped => clamped.lines = range.lines ∩ documentLines lineCount)
      (ranges.filter fun range => (range.lines ∩ documentLines lineCount).Nonempty)
      (clampAll lineCount ranges) ∧
    (∀ clamped ∈ clampAll lineCount ranges,
      0 ≤ clamped.startLine ∧ clamped.startLine ≤ clamped.endLine ∧ clamped.endLine < lineCount) ∧
    (∀ m, clampAll m (clampAll lineCount ranges) = clampAll (min m lineCount) ranges) ∧
    clampAll lineCount (clampAll lineCount ranges) = clampAll lineCount ranges := by
  refine ⟨forall₂_clampAll lineCount ranges, fun _ => bounds_of_mem_clampAll,
    fun m => clampAll_clampAll m lineCount ranges, ?_⟩
  rw [clampAll_clampAll, min_self]

/-- A range past both ends of a document of five lines, one that lies behind it, one that is inverted, and
one that is inverted only once its first line is moved to the start of the document. -/
theorem clampAll_intersects_document_inverted :
    ⟨0, 4⟩ ∈ clampAll 5 [⟨-1, 9⟩, ⟨5, 6⟩, ⟨3, 2⟩, ⟨-4, -2⟩, ⟨2, 3⟩] ∧
      (0 ≤ (0 : Int) ∧ (0 : Int) ≤ 4 ∧ (4 : Int) < 5) ∧
      clampAll 3 (clampAll 5 [⟨-1, 9⟩, ⟨5, 6⟩, ⟨3, 2⟩, ⟨-4, -2⟩, ⟨2, 3⟩]) =
        clampAll 3 [⟨-1, 9⟩, ⟨5, 6⟩, ⟨3, 2⟩, ⟨-4, -2⟩, ⟨2, 3⟩] := by
  have hmem : ⟨0, 4⟩ ∈ clampAll 5 [⟨-1, 9⟩, ⟨5, 6⟩, ⟨3, 2⟩, ⟨-4, -2⟩, ⟨2, 3⟩] := by decide
  obtain ⟨-, bounds, shorter, -⟩ :=
    clampAll_intersects_document 5 [⟨-1, 9⟩, ⟨5, 6⟩, ⟨3, 2⟩, ⟨-4, -2⟩, ⟨2, 3⟩]
  exact ⟨hmem, bounds _ hmem, shorter 3⟩

example : clampAll 5 [⟨-1, 9⟩, ⟨5, 6⟩, ⟨3, 2⟩, ⟨-4, -2⟩, ⟨2, 3⟩] = [⟨0, 4⟩, ⟨2, 3⟩] := by decide

end LineFold.Range
