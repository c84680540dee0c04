import LineFold.Pattern.Compile
import Mathlib.Tactic.Lemma

/-! A search tries the columns of a line one after the other, so it finds the match at the least
column from its position on. Whether a pattern matches at a column does not depend on where the
search began; hence a miss is a miss for every later search, and a match that still lies ahead is
what a later search finds as well. -/
namespace LineFold.Pattern

theorem firstSpan?_eq_none_iff {stop? : Nat → Option Nat} {count column : Nat} :
    firstSpan? stop? count column = none ↔
      ∀ k, column ≤ k → k < column + count → stop? k = none := by
  induction count generalizing column with
  | zero =>
    simp only [firstSpan?, true_iff]
    intro k _ _
    omega
  | succ count ih =>
    cases hc : stop? column with
    | some stop =>
      simp only [firstSpan?, hc, reduceCtorEq, false_iff]
      intro h
      have hn := h column (Nat.le_refl _) (by omega)
      rw [hc] at hn
      cases hn
    | none =>
      simp only [firstSpan?, hc, ih]
      constructor
      · intro h k hk hlt
        rcases Nat.eq_or_lt_of_le hk with rfl | hk
        · exact hc
        · exact h k hk (by omega)
      · intro h k hk hlt
        exact h k (by omega) (by omega)

theorem firstSpan?_eq_some_iff {stop? : Nat → Option Nat} {count column : Nat} {span : Span} :
    firstSpan? stop? count column = some span ↔
      column ≤ span.start ∧ span.start < column + count ∧ stop? span.start = some span.stop ∧
        ∀ k, column ≤ k → k < span.start → stop? k = none := by
  induction count generalizing column with
  | zero =>
    simp only [firstSpan?, reduceCtorEq, false_iff]
    intro h
    omega
  | succ count ih =>
    cases hc : stop? column with
    | some stop =>
      simp only [firstSpan?, hc, Option.some.injEq]
      constructor
      · rintro rfl
        exact ⟨Nat.le_refl _, by simp, hc, fun k hk hlt => by simp only at hlt; omega⟩
      · rintro ⟨hle, -, hstop, hnone⟩
        rcases Nat.eq_or_lt_of_le hle with heq | hlt
        · subst heq
          have : stop = span.stop := Option.some.inj (hc.symm.trans hstop)
          subst this
          rfl
        · have hn := hnone column (Nat.le_refl _) hlt
          rw [hc] at hn
          cases hn
    | none =>
      simp only [firstSpan?, hc, ih]
      constructor
      · rintro ⟨hle, hlt, hstop, hnone⟩
        refine ⟨by omega, by omega, hstop, ?_⟩
        intro k hk hks
        rcases Nat.eq_or_lt_of_le hk with rfl | hk
        · exact hc
        · exact hnone k hk hks
      · rintro ⟨hle, hlt, hstop, hnone⟩
        have hne : column ≠ span.start := by
          intro heq
          rw [← heq, hc] at hstop
          cases hstop
        exact ⟨by omega, by omega, hstop, fun k hk hks => hnone k (by omega) hks⟩

variable {pattern : Pattern} {line : Line} {position later : Int} {span : Span}

lemma searchStart_le_size (line : Line) (position : Int) :
    searchStart line position ≤ line.size :=
  Nat.min_le_right _ _

lemma searchStart_mono (h : position ≤ later) :
    searchStart line position ≤ searchStart line later := by
  have hn : position.toNat ≤ later.toNat := by omega
  exact Nat.le_min.mpr ⟨Nat.le_trans (Nat.min_le_left _ _) hn, searchStart_le_size _ _⟩

lemma searchStart_le {column : Nat} (h : position ≤ column) :
    searchStart line position ≤ column := by
  have hn : position.toNat ≤ column := by omega
  exact Nat.le_trans (Nat.min_le_left _ _) hn

lemma searchStart_eq {column : Nat} (h : column ≤ line.size) :
    searchStart line column = column :=
  Nat.min_eq_left h

theorem search?_eq_none_iff :
    pattern.search? line position = none ↔
      ∀ k, searchStart line position ≤ k → k ≤ line.size →
        pattern.regex.matchAt? line k = none := by
  have hs := searchStart_le_size line position
  rw [search?, Regex.search?, firstSpan?_eq_none_iff]
  constructor
  · intro h k hk hle
    exact h k hk (by omega)
  · intro h k hk hlt
    exact h k hk (by omega)

/-- A search finds the match at the least column from its position on. -/
theorem search?_eq_some_iff :
    pattern.search? line position = some span ↔
      searchStart line position ≤ span.start ∧ span.start ≤ line.size ∧
        pattern.regex.matchAt? line span.start = some span.stop ∧
        ∀ k, searchStart line position ≤ k → k < span.start →
          pattern.regex.matchAt? line k = none := by
  have hs := searchStart_le_size line position
  rw [search?, Regex.search?, firstSpan?_eq_some_iff]
  constructor
  · rintro ⟨hle, hlt, h⟩
    exact ⟨hle, by omega, h⟩
  · rintro ⟨hle, hlt, h⟩
    exact ⟨hle, by omega, h⟩

/-- Where a pattern matches, a search from there or before finds a match no later. -/
lemma exists_search?_of_matchAt? {column : Nat} (h : (pattern.regex.matchAt? line column).isSome)
    (hle : searchStart line position ≤ column) (inside : column ≤ line.size) :
    ∃ span, pattern.search? line position = some span ∧ span.start ≤ column := by
  cases hs : pattern.search? line position with
  | none =>
    rw [search?_eq_none_iff.mp hs column hle inside] at h
    cases h
  | some span =>
    refine ⟨span, rfl, Nat.le_of_not_lt fun hlt => ?_⟩
    rw [(search?_eq_some_iff.mp hs).2.2.2 column hle hlt] at h
    cases h

theorem search?_eq_none_of_le (h : pattern.search? line position = none)
    (hle : position ≤ later) : pattern.search? line later = none := by
  rw [search?_eq_none_iff] at h ⊢
  intro k hk
  exact h k (Nat.le_trans (searchStart_mono hle) hk)

/-- What an earlier search found is found again by one that begins at its start or before. -/
theorem search?_eq_some_of_le (h : pattern.search? line position = some span)
    (hle : position ≤ later) (hstart : later ≤ span.start) :
    pattern.search? line later = some span := by
  rw [search?_eq_some_iff] at h ⊢
  obtain ⟨-, hsize, hstop, hnone⟩ := h
  refine ⟨searchStart_le hstart, hsize, hstop, ?_⟩
  intro k hk
  exact hnone k (Nat.le_trans (searchStart_mono hle) hk)

end LineFold.Pattern
