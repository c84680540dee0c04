import LineFold.Proofs.Pattern.Escaped
import LineFold.Proofs.Pattern.Search

/-! What the pattern of a literal matches. At a column it matches if the text of the literal stands
there, and then it matches that text and no more. A search for it is therefore a search for the
first occurrence of the text, whatever characters that has. -/
namespace LineFold.Pattern

/-- Whether a text stands on a line from a column on. -/
def OccursAt (text : List Char) (line : Line) (column : Nat) : Prop :=
  text <+: line.toList.drop column

instance (text : List Char) (line : Line) (column : Nat) : Decidable (OccursAt text line column) :=
  inferInstanceAs (Decidable (text <+: line.toList.drop column))

/-- A span that covers the first occurrence of a text from a position on. -/
structure FirstOccurrence (text : List Char) (line : Line) (position : Nat) (span : Span) :
    Prop where
  position_le : position ≤ span.start
  occurs : OccursAt text line span.start
  stop_eq : span.stop = span.start + text.length
  first : ∀ column, position ≤ column → column < span.start → ¬ OccursAt text line column

variable {c : Char} {text : List Char} {line : Line} {column position : Nat} {span : Span}

lemma occursAt_cons :
    OccursAt (c :: text) line column ↔
      charAt? line column = some c ∧ OccursAt text line (column + 1) := by
  rw [OccursAt, OccursAt, charAt?, ← Array.getElem?_toList]
  by_cases inside : column < line.toList.length
  · rw [List.drop_eq_getElem_cons inside, List.cons_prefix_cons, List.getElem?_eq_getElem inside,
      Option.some.injEq, eq_comm]
  · rw [List.drop_eq_nil_of_le (Nat.le_of_not_lt inside), List.getElem?_eq_none
      (Nat.le_of_not_lt inside)]
    simp

lemma lt_size_of_occursAt (nonempty : text ≠ []) (h : OccursAt text line column) :
    column < line.size := by
  have hlength := List.IsPrefix.length_le h
  have hpos := List.length_pos_iff.mpr nonempty
  have hsize : line.toList.length = line.size := Array.length_toList
  rw [List.length_drop] at hlength
  omega

section Matching

lemma acceptsAt_literalChar (c : Char) (line : Line) (column : Nat) :
    CharTest.acceptsAt ⟨.exact, false, [.code c.toNat]⟩ line column =
      decide (charAt? line column = some c) := by
  rw [CharTest.acceptsAt]
  cases charAt? line column with
  | none => rfl
  | some d =>
    have hsame : (d.toNat == c.toNat) = decide (d = c) := by
      rw [Bool.eq_iff_iff, beq_iff_eq, decide_eq_true_iff]
      exact Char.toNat_inj
    simp [CharTest.accepts, CodeTest.accepts, Fold.lower, hsame]

lemma run_sequence_cons (first : Regex) (rest : List Regex) (p : Progress) (k : Continuation) :
    (Regex.sequence (first :: rest)).run line p k =
      first.run line p fun q => (Regex.sequence rest).run line q k := by
  cases rest <;> rfl

/-- Matching a literal goes on behind its text where that stands, and fails elsewhere. -/
lemma run_literalChars (text : List Char) (p : Progress) (k : Continuation) :
    (Regex.sequence (text.map literalChar)).run line p k =
      if OccursAt text line p.column then k (p.advance text.length) else none := by
  induction text generalizing p with
  | nil =>
    have hempty : OccursAt [] line p.column := List.nil_prefix
    rw [if_pos hempty]
    rfl
  | cons c rest ih =>
    rw [List.map_cons, run_sequence_cons, literalChar, Regex.run, acceptsAt_literalChar, ih]
    have hcolumn : (p.advance 1).column = p.column + 1 := rfl
    have hadvance : (p.advance 1).advance rest.length = p.advance (rest.length + 1) := by
      rw [Progress.advance, Progress.advance, Progress.advance, Nat.add_assoc, Nat.add_comm 1]
    by_cases hc : charAt? line p.column = some c
    · simp only [occursAt_cons, hc, hcolumn, hadvance, true_and, decide_true, if_true,
        List.length_cons]
    · simp only [occursAt_cons, hc, false_and, decide_false, Bool.false_eq_true, if_false]

theorem matchAt?_literal (text : String) (line : Line) (column : Nat) :
    (literal text).regex.matchAt? line column =
      if OccursAt text.toList line column then some (column + text.toList.length) else none := by
  rw [literal, Regex.matchAt?, run_literalChars]
  split <;> rfl

lemma matchAt?_literal_eq_none_iff {text : String} :
    (literal text).regex.matchAt? line column = none ↔ ¬ OccursAt text.toList line column := by
  rw [matchAt?_literal]
  split <;> simp_all

end Matching

section Searching

variable {text : String}

/-- A search for a literal finds nothing if its text does not stand anywhere behind. -/
theorem search?_literal_eq_none_iff (nonempty : text ≠ "") (inside : position ≤ line.size) :
    (literal text).search? line position = none ↔
      ∀ column, position ≤ column → ¬ OccursAt text.toList line column := by
  have hchars : text.toList ≠ [] := by simpa using nonempty
  rw [search?_eq_none_iff, searchStart_eq inside]
  simp only [matchAt?_literal_eq_none_iff]
  constructor
  · intro h column hle hoccurs
    exact h column hle (Nat.le_of_lt (lt_size_of_occursAt hchars hoccurs)) hoccurs
  · intro h column hle _
    exact h column hle

/-- A search for a literal finds the first occurrence of its text. -/
theorem search?_literal_eq_some_iff (nonempty : text ≠ "") (inside : position ≤ line.size) :
    (literal text).search? line position = some span ↔
      FirstOccurrence text.toList line position span := by
  have hchars : text.toList ≠ [] := by simpa using nonempty
  rw [search?_eq_some_iff, searchStart_eq inside]
  simp only [matchAt?_literal_eq_none_iff]
  rw [matchAt?_literal]
  constructor
  · rintro ⟨hle, -, hstop, hfirst⟩
    split at hstop
    · rename_i hoccurs
      exact ⟨hle, hoccurs, (Option.some.inj hstop).symm, hfirst⟩
    · cases hstop
  · rintro ⟨hle, hoccurs, hstop, hfirst⟩
    have hsize := lt_size_of_occursAt hchars hoccurs
    exact ⟨hle, Nat.le_of_lt hsize, by rw [if_pos hoccurs, hstop], hfirst⟩

end Searching

end LineFold.Pattern
