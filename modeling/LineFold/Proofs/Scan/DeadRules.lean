import LineFold.Proofs.Scan.Leftmost
import LineFold.Proofs.Scan.Relabel

/-! Rules that never have a say. Wherever a marker of a dead rule matches, one of a rule declared
before it matches too. So whatever a dead rule finds, an earlier rule has found something that
starts no later, and the best match is settled without it. Such a rule may be taken out: the events
of the document stay the same, and so do its ranges, whether the rules behind keep their indexes or
move up. -/
namespace LineFold.Scan
open Pattern (Line Span searchStart)

/-- Whether, at each column of a document where a marker of a rule matches, one of a rule before it
matches. -/
def Dead (before : List Rule) (rule : Rule) (lines : List Line) : Prop :=
  ∀ line ∈ lines, ∀ column ≤ line.size, MarksAt rule line column →
    ∃ other ∈ before, MarksAt other line column

variable {before after : List Rule} {rule : Rule} {lines : List Line} {line : Line} {position : Int}

/-- A rule is dead if rules before it have all its markers. -/
lemma Dead.of_markers (h : ∀ pattern ∈ markers rule, ∃ other ∈ before, pattern ∈ markers other) :
    Dead before rule lines := by
  rintro line - column - ⟨pattern, hpattern, hmatch⟩
  obtain ⟨other, hother, hmem⟩ := h pattern hpattern
  exact ⟨other, hother, pattern, hmem, hmatch⟩

section Search

/-- What is found where a rule matches does not improve the result of a search for that rule and
others. -/
lemma not_improves_of_marksAt {span : Span} {other : Rule} (hother : other ∈ before)
    (marks : MarksAt other line span.start)
    (hle : searchStart line position ≤ span.start) (inside : span.start ≤ line.size) :
    improves (search before line position) span = false := by
  obtain ⟨found, hfound, hstart⟩ := exists_search_of_marksAt hother marks hle inside
  rw [hfound]
  exact decide_eq_false (Nat.not_lt.mpr hstart)

/-- A search does not miss a dead rule. -/
theorem search_without_dead (dead : Dead before rule lines) (hline : line ∈ lines)
    (position : Int) :
    search (before ++ rule :: after) line position = search (before ++ after) line position := by
  have hrule : earlier (search before line position) (search [rule] line position) =
      search before line position := by
    cases hs : search [rule] line position with
    | none => rfl
    | some found =>
      obtain ⟨hle, inside, marks⟩ := marksAt_of_search_singleton hs
      obtain ⟨other, hother, hothers⟩ := dead line hline found.span.start inside marks
      rw [earlier, not_improves_of_marksAt hother hothers hle inside]
      rfl
  calc search (before ++ rule :: after) line position
      = earlier (search before line position)
          (earlier (search [rule] line position) (search after line position)) := by
        rw [search_append, search_cons]
    _ = earlier (earlier (search before line position) (search [rule] line position))
          (search after line position) := (earlier_assoc _ _ _).symm
    _ = search (before ++ after) line position := by rw [hrule, search_append]

end Search

/-- A dead rule may be taken out, with or without numbering the others anew. -/
theorem scan_without_dead (before after : List Rule) (rule : Rule) (lines : List Line)
    (distinct : ((before ++ rule :: after).map (·.index)).Nodup)
    (dead : Dead before rule lines) :
    scan (before ++ after) lines = scan (before ++ rule :: after) lines ∧
      scan (renumberAll (before ++ after)) lines = scan (before ++ rule :: after) lines := by
  have hkept : scan (before ++ after) lines = scan (before ++ rule :: after) lines := by
    have hsearch : ∀ line ∈ lines, ∀ position, search (before ++ rule :: after) line position =
        search (before ++ after) line position :=
      fun line hline position => search_without_dead dead hline position
    rw [scan, scan, eventsFrom_congr hsearch]
  have hsublist : (before ++ after).Sublist (before ++ rule :: after) :=
    (List.sublist_cons_self rule after).append_left before
  have hdistinct : ((before ++ after).map (·.index)).Nodup :=
    distinct.sublist (hsublist.map _)
  exact ⟨hkept, (scan_renumberAll hdistinct lines).trans hkept⟩

/-- The middle rule has the opening marker of one rule before it and the closing marker of the
other one. -/
theorem scan_without_dead_mixed :
    (([bracketRule 0 '(' ')', bracketRule 1 '<' '>'] ++
        bracketRule 2 '(' '>' :: [bracketRule 3 '[' ']']).map (·.index)).Nodup ∧
    Dead [bracketRule 0 '(' ')', bracketRule 1 '<' '>'] (bracketRule 2 '(' '>')
      (["([", "<", "x", ">", "])"].map Line.ofText) ∧
    scan ([bracketRule 0 '(' ')', bracketRule 1 '<' '>'] ++ [bracketRule 3 '[' ']'])
        (["([", "<", "x", ">", "])"].map Line.ofText) =
      scan ([bracketRule 0 '(' ')', bracketRule 1 '<' '>'] ++
          bracketRule 2 '(' '>' :: [bracketRule 3 '[' ']'])
        (["([", "<", "x", ">", "])"].map Line.ofText) ∧
    scan (renumberAll
          ([bracketRule 0 '(' ')', bracketRule 1 '<' '>'] ++ [bracketRule 3 '[' ']']))
        (["([", "<", "x", ">", "])"].map Line.ofText) =
      scan ([bracketRule 0 '(' ')', bracketRule 1 '<' '>'] ++
          bracketRule 2 '(' '>' :: [bracketRule 3 '[' ']'])
        (["([", "<", "x", ">", "])"].map Line.ofText) := by
  have dead : Dead [bracketRule 0 '(' ')', bracketRule 1 '<' '>'] (bracketRule 2 '(' '>')
      (["([", "<", "x", ">", "])"].map Line.ofText) := by
    refine Dead.of_markers fun pattern hpattern => ?_
    have hmarkers : markers (bracketRule 2 '(' '>') =
        [(bracketRule 0 '(' ')').opening, (bracketRule 1 '<' '>').closing] := rfl
    rw [hmarkers] at hpattern
    rcases List.mem_pair.mp hpattern with rfl | rfl
    · exact ⟨bracketRule 0 '(' ')', by simp, by simp [markers]⟩
    · exact ⟨bracketRule 1 '<' '>', by simp, by simp [markers]⟩
  have distinct : (([bracketRule 0 '(' ')', bracketRule 1 '<' '>'] ++
      bracketRule 2 '(' '>' :: [bracketRule 3 '[' ']']).map (·.index)).Nodup := by decide
  exact ⟨distinct, dead, scan_without_dead _ _ _ _ distinct dead⟩

end LineFold.Scan
