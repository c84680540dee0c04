import LineFold.Proofs.Pattern.Search
import LineFold.Scan.Search

/-! A walk along a line that searches every alternative anew from each column. A search from a
column of the line finds nothing before that column, and the walk goes on at least one column
behind, so it ends at the end of the line. -/
namespace LineFold.Scan
open Pattern (Line Span searchStart)

variable {rules : List Rule} {line : Line} {position : Int} {found : Match}

lemma rule_mem_of_mem_alternatives {alternative : Alternative}
    (h : alternative ∈ alternatives rules) : alternative.rule ∈ rules := by
  obtain ⟨rule, hrule, hmem⟩ := List.mem_flatMap.mp h
  have heq : alternative.rule = rule := by
    simp only [List.mem_append, List.mem_cons, List.not_mem_nil, or_false, Option.mem_toList,
      Option.map_eq_some_iff] at hmem
    rcases hmem with (rfl | rfl) | ⟨pattern, -, rfl⟩ <;> rfl
  exact heq ▸ hrule

/-- A result of a search is the best match so far or what some alternative finds. -/
lemma searchFrom_origin {alternatives : List Alternative} {best : Option Match}
    (h : searchFrom line position alternatives best = some found) :
    best = some found ∨ ∃ alternative ∈ alternatives,
      found.kind = alternative.kind ∧ found.rule = alternative.rule ∧
        alternative.pattern.search? line position = some found.span := by
  induction alternatives generalizing best with
  | nil => exact Or.inl h
  | cons alternative rest ih =>
    have later (h : searchFrom line position rest best = some found) :
        best = some found ∨ ∃ other ∈ alternative :: rest, found.kind = other.kind ∧
          found.rule = other.rule ∧ other.pattern.search? line position = some found.span := by
      rcases ih h with hbest | ⟨other, hmem, hother⟩
      · exact Or.inl hbest
      · exact Or.inr ⟨other, List.mem_cons_of_mem _ hmem, hother⟩
    rw [searchFrom] at h
    cases hs : alternative.pattern.search? line position with
    | none => exact later (by simpa only [hs] using h)
    | some span =>
      simp only [hs] at h
      split at h
      · split at h
        · cases Option.some.inj h
          exact Or.inr ⟨alternative, List.mem_cons_self, rfl, rfl, hs⟩
        · rcases ih h with hbest | ⟨other, hmem, hother⟩
          · cases Option.some.inj hbest
            exact Or.inr ⟨alternative, List.mem_cons_self, rfl, rfl, hs⟩
          · exact Or.inr ⟨other, List.mem_cons_of_mem _ hmem, hother⟩
      · exact later h

theorem search_origin (h : search rules line position = some found) :
    ∃ alternative ∈ alternatives rules, found.kind = alternative.kind ∧
      found.rule = alternative.rule ∧
        alternative.pattern.search? line position = some found.span := by
  rcases searchFrom_origin h with hbest | horigin
  · cases hbest
  · exact horigin

lemma rule_mem_of_search (h : search rules line position = some found) : found.rule ∈ rules := by
  obtain ⟨alternative, hmem, -, hrule, -⟩ := search_origin h
  exact hrule ▸ rule_mem_of_mem_alternatives hmem

lemma le_start_of_search {column : Nat} (inside : column ≤ line.size)
    (h : search rules line column = some found) : column ≤ found.span.start := by
  obtain ⟨alternative, -, -, -, hs⟩ := search_origin h
  have hle := (Pattern.search?_eq_some_iff.mp hs).1
  rwa [Pattern.searchStart_eq inside] at hle

lemma start_lt_nextColumn (span : Span) : span.start < nextColumn span := by
  rw [nextColumn]
  omega

lemma lt_nextColumn_of_search {column : Nat} (inside : column ≤ line.size)
    (h : search rules line column = some found) : column < nextColumn found.span :=
  Nat.lt_of_le_of_lt (le_start_of_search inside h) (start_lt_nextColumn found.span)

/-- The matches that a walk from `column` on comes across when it keeps nothing in mind. -/
def walkFrom (rules : List Rule) (line : Line) (column : Nat) : List Match :=
  if inside : column ≤ line.size then
    match h : search rules line column with
    | none => []
    | some found =>
      have := lt_nextColumn_of_search inside h
      found :: walkFrom rules line (nextColumn found.span)
  else []
termination_by line.size + 1 - column

lemma walkFrom_outside {column : Nat} (outside : line.size < column) :
    walkFrom rules line column = [] := by
  rw [walkFrom, dif_neg (by omega)]

lemma walkFrom_none {column : Nat} (h : search rules line column = none) :
    walkFrom rules line column = [] := by
  rw [walkFrom]
  split
  · split
    · rfl
    · rename_i found hfound
      rw [h] at hfound
      cases hfound
  · rfl

lemma walkFrom_some {column : Nat} (inside : column ≤ line.size)
    (h : search rules line column = some found) :
    walkFrom rules line column = found :: walkFrom rules line (nextColumn found.span) := by
  rw [walkFrom, dif_pos inside]
  split
  · rename_i hnone
    rw [h] at hnone
    cases hnone
  · rename_i other hother
    cases Option.some.inj (h.symm.trans hother)
    rfl

lemma rule_mem_of_mem_walkFrom {column : Nat} (h : found ∈ walkFrom rules line column) :
    found.rule ∈ rules := by
  fun_induction walkFrom rules line column with
  | case1 column inside hnone => cases h
  | case2 column inside first hfirst _ ih =>
    rcases List.mem_cons.mp h with rfl | h
    · exact rule_mem_of_search hfirst
    · exact ih h
  | case3 column outside => cases h

end LineFold.Scan
