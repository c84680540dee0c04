import LineFold.Text.Lines
import Mathlib.Tactic.Common

/-! Line ends that are unified before a text is split. The lines are those of the text as it was: a
carriage return ends a line together with a line feed behind it, whether both are there or one line
feed in their place, and no other line end reaches beyond its own character. -/
namespace LineFold.Text

variable {c : Char} {rest : List Char}

lemma dropLineEnd_of_ne (h : c ≠ '\r') (rest : List Char) : dropLineEnd c rest = rest := by
  unfold dropLineEnd
  split
  · exact absurd rfl h
  · rfl

section Unify

/-- What is done already stands before all the rest. -/
lemma unifyLineEndsFrom_append (done before text : List Char) :
    unifyLineEndsFrom (done ++ before) text = before.reverse ++ unifyLineEndsFrom done text := by
  fun_induction unifyLineEndsFrom done text with
  | case1 done => rw [unifyLineEndsFrom, List.reverse_append]
  | case2 done rest ih => rw [unifyLineEndsFrom, if_pos rfl, ← List.cons_append, ih]
  | case3 done c rest hc ih => rw [unifyLineEndsFrom, if_neg hc, ← List.cons_append, ih]

lemma unifyLineEnds_nil : unifyLineEnds [] = [] := by
  rw [unifyLineEnds, unifyLineEndsFrom, List.reverse_nil]

/-- A carriage return and a line feed behind it become one line feed. -/
lemma unifyLineEnds_return (rest : List Char) :
    unifyLineEnds ('\r' :: rest) = '\n' :: unifyLineEnds (dropLineEnd '\r' rest) := by
  rw [unifyLineEnds, unifyLineEndsFrom, if_pos rfl]
  exact unifyLineEndsFrom_append [] ['\n'] (dropLineEnd '\r' rest)

lemma unifyLineEnds_cons (h : c ≠ '\r') (rest : List Char) :
    unifyLineEnds (c :: rest) = c :: unifyLineEnds rest := by
  rw [unifyLineEnds, unifyLineEndsFrom, if_neg h]
  exact unifyLineEndsFrom_append [] [c] rest

end Unify

/-- Splitting a text with unified line ends gives the lines of the text itself, as a line feed in place of
a carriage return takes no second one with it. -/
theorem splitLinesFrom_unifyLineEnds (line text : List Char) :
    splitLinesFrom line (unifyLineEnds text) = splitLinesFrom line text := by
  fun_induction splitLinesFrom line text with
  | case1 line hempty => rw [unifyLineEnds_nil, splitLinesFrom, if_pos hempty]
  | case2 line hline => rw [unifyLineEnds_nil, splitLinesFrom, if_neg hline]
  | case3 line c rest hend ih =>
    by_cases hreturn : c = '\r'
    · subst hreturn
      rw [unifyLineEnds_return, splitLinesFrom, if_pos (by decide), dropLineEnd_of_ne (by decide), ih]
    · rw [dropLineEnd_of_ne hreturn] at ih ⊢
      rw [unifyLineEnds_cons hreturn, splitLinesFrom, if_pos hend, dropLineEnd_of_ne hreturn, ih]
  | case4 line c rest hinner ih =>
    have hreturn : c ≠ '\r' := by
      rintro rfl
      exact hinner (by decide)
    rw [unifyLineEnds_cons hreturn, splitLinesFrom, if_neg hinner, ih]

section Join

/-- Up to the first line feed there is one line. -/
lemma splitLinesFrom_append (line : List Char) {inner : List Char}
    (h : ∀ c ∈ inner, isLineEnd c = false) (rest : List Char) :
    splitLinesFrom line (inner ++ '\n' :: rest) =
      String.ofList (line.reverse ++ inner) :: splitLinesFrom [] rest := by
  induction inner generalizing line with
  | nil =>
    rw [List.nil_append, splitLinesFrom, if_pos (by decide), dropLineEnd_of_ne (by decide),
      List.append_nil]
  | cons c inner ih =>
    have hc : ¬ isLineEnd c = true := by simp [h c List.mem_cons_self]
    rw [List.cons_append, splitLinesFrom, if_neg hc,
      ih (c :: line) fun d hd => h d (List.mem_cons_of_mem c hd)]
    simp

/-- Lines that hold no line end are what their text with a line feed behind each is split into. -/
theorem splitLines_join {lines : List String}
    (h : ∀ line ∈ lines, ∀ c ∈ line.toList, isLineEnd c = false) :
    splitLines (String.join (lines.map (· ++ "\n"))) = lines := by
  induction lines with
  | nil => rw [List.map_nil, String.join_nil, splitLines, String.toList_empty, splitLinesFrom]; rfl
  | cons line lines ih =>
    have htext : (String.join ((line :: lines).map (· ++ "\n"))).toList =
        line.toList ++ '\n' :: (String.join (lines.map (· ++ "\n"))).toList := by
      simp [String.join_cons]
    have hlines := ih fun other hother => h other (List.mem_cons_of_mem line hother)
    rw [splitLines] at hlines
    rw [splitLines, htext, splitLinesFrom_append [] (h line List.mem_cons_self), hlines,
      List.reverse_nil, List.nil_append, String.ofList_toList]

end Join

end LineFold.Text
