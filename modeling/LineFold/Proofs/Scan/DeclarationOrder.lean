import LineFold.Proofs.Scan.Leftmost
import LineFold.Proofs.Scan.Relabel

/-! The order of rules only decides ties. Where no two rules match at one column, the earlier of two
results of a search is the same whichever rule comes first. So a permutation of the rules leaves
every search as it was, hence the events and the ranges of a document, whether the rules keep their
indexes or are numbered by their new places. -/
namespace LineFold.Scan
open Pattern (Line)

/-- Whether two rules match nowhere in a document at one column. -/
def Untied (lines : List Line) (a b : Rule) : Prop :=
  ∀ line ∈ lines, ∀ column ≤ line.size, ¬ (MarksAt a line column ∧ MarksAt b line column)

instance (lines : List Line) (a b : Rule) : Decidable (Untied lines a b) :=
  inferInstanceAs (Decidable (∀ line ∈ lines, ∀ column ≤ line.size, ¬ (_ ∧ _)))

variable {rules others : List Rule} {a b : Rule} {lines : List Line} {line : Line}
  {position : Int}

section Earlier

lemma earlier_comm {first second : Option Match}
    (apart : ∀ x ∈ first, ∀ y ∈ second, x.span.start ≠ y.span.start) :
    earlier first second = earlier second first := by
  cases first with
  | none => exact earlier_none_left second
  | some x =>
    cases second with
    | none => rfl
    | some y =>
      have hne := apart x rfl y rfl
      by_cases hyx : y.span.start < x.span.start
      · have hxy : ¬ x.span.start < y.span.start := by omega
        simp [earlier, improves, hyx, hxy]
      · have hxy : x.span.start < y.span.start := by omega
        simp [earlier, improves, hyx, hxy]

end Earlier

section Search

lemma Untied.symm (h : Untied lines a b) : Untied lines b a := by
  rintro line hline column inside ⟨hb, ha⟩
  exact h line hline column inside ⟨ha, hb⟩

/-- Rules that are untied may be searched in any order. -/
lemma earlier_search_comm (untied : Untied lines a b) (hline : line ∈ lines) :
    earlier (search [a] line position) (search [b] line position) =
      earlier (search [b] line position) (search [a] line position) := by
  refine earlier_comm fun x hx y hy heq => ?_
  obtain ⟨-, inside, ha⟩ := marksAt_of_search_singleton hx
  obtain ⟨-, -, hb⟩ := marksAt_of_search_singleton hy
  exact untied line hline x.span.start inside ⟨ha, heq ▸ hb⟩

/-- A permutation of untied rules leaves every search as it was. Two rules that change places meet at the
front of the search, and whether rules are untied does not depend on their order. -/
theorem search_perm (perm : others.Perm rules) (untied : rules.Pairwise (Untied lines))
    (hline : line ∈ lines) (position : Int) :
    search others line position = search rules line position := by
  induction perm with
  | nil => rfl
  | @cons rule others rules _ ih =>
    rw [search_cons rule others, search_cons rule rules, ih (List.pairwise_cons.mp untied).2]
  | swap a b rest =>
    obtain ⟨hfirst, -⟩ := List.pairwise_cons.mp untied
    have hswap : earlier (search [a] line position) (search [b] line position) =
        earlier (search [b] line position) (search [a] line position) :=
      earlier_search_comm (hfirst b List.mem_cons_self) hline
    rw [search_cons a (b :: rest), search_cons b rest, search_cons b (a :: rest),
      search_cons a rest, ← earlier_assoc, ← earlier_assoc, hswap]
  | trans _ later ihFirst ihLater =>
    have hmiddle := (later.pairwise_iff Untied.symm).mpr untied
    rw [ihFirst hmiddle, ihLater untied]

end Search

/-- Rules no two of which match at one column may be declared in any order, with or without
numbering them anew. -/
theorem scan_perm (rules others : List Rule) (lines : List Line)
    (distinct : (rules.map (·.index)).Nodup) (perm : others.Perm rules)
    (untied : rules.Pairwise (Untied lines)) :
    scan others lines = scan rules lines ∧
      scan (renumberAll others) lines = scan rules lines := by
  have hkept : scan others lines = scan rules lines := by
    have hsearch : ∀ line ∈ lines, ∀ position,
        search others line position = search rules line position :=
      fun line hline position => search_perm perm untied hline position
    rw [scan, scan, eventsFrom_congr hsearch]
  have hdistinct : (others.map (·.index)).Nodup := (perm.map _).nodup_iff.mpr distinct
  exact ⟨hkept, (scan_renumberAll hdistinct lines).trans hkept⟩

/-- The first rule goes to the end, and regions of different rules interleave. -/
theorem scan_perm_rotated :
    ([bracketRule 0 '(' ')', bracketRule 1 '<' '>', bracketRule 2 '[' ']'].map (·.index)).Nodup ∧
    [bracketRule 1 '<' '>', bracketRule 2 '[' ']', bracketRule 0 '(' ')'].Perm
      [bracketRule 0 '(' ')', bracketRule 1 '<' '>', bracketRule 2 '[' ']'] ∧
    [bracketRule 0 '(' ')', bracketRule 1 '<' '>', bracketRule 2 '[' ']'].Pairwise
      (Untied (["(<", "[", ">", ")]"].map Line.ofText)) ∧
    scan [bracketRule 1 '<' '>', bracketRule 2 '[' ']', bracketRule 0 '(' ')']
        (["(<", "[", ">", ")]"].map Line.ofText) =
      scan [bracketRule 0 '(' ')', bracketRule 1 '<' '>', bracketRule 2 '[' ']']
        (["(<", "[", ">", ")]"].map Line.ofText) ∧
    scan (renumberAll [bracketRule 1 '<' '>', bracketRule 2 '[' ']', bracketRule 0 '(' ')'])
        (["(<", "[", ">", ")]"].map Line.ofText) =
      scan [bracketRule 0 '(' ')', bracketRule 1 '<' '>', bracketRule 2 '[' ']']
        (["(<", "[", ">", ")]"].map Line.ofText) := by
  have distinct : ([bracketRule 0 '(' ')', bracketRule 1 '<' '>',
      bracketRule 2 '[' ']'].map (·.index)).Nodup := by decide
  have perm : [bracketRule 1 '<' '>', bracketRule 2 '[' ']', bracketRule 0 '(' ')'].Perm
      [bracketRule 0 '(' ')', bracketRule 1 '<' '>', bracketRule 2 '[' ']'] :=
    List.perm_append_singleton (bracketRule 0 '(' ')')
      [bracketRule 1 '<' '>', bracketRule 2 '[' ']']
  have untied : [bracketRule 0 '(' ')', bracketRule 1 '<' '>', bracketRule 2 '[' ']'].Pairwise
      (Untied (["(<", "[", ">", ")]"].map Line.ofText)) := by decide
  exact ⟨distinct, perm, untied, scan_perm _ _ _ distinct perm untied⟩

/-- At a tie the order matters: the rule declared first takes the opening marker. -/
example :
    scan [bracketRule 0 '(' ')', bracketRule 1 '(' '>'] (["(", "x", ")"].map Line.ofText) =
        [⟨0, 1⟩] ∧
      scan [bracketRule 1 '(' '>', bracketRule 0 '(' ')'] (["(", "x", ")"].map Line.ofText) =
        [] := by
  decide

end LineFold.Scan
