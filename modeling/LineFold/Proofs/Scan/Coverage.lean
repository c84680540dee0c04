import LineFold.Proofs.Pattern.Span
import LineFold.Proofs.Scan.FirstMarker

/-! The matches of a line cover its markers. A walk searches from the first column, and behind each
match it searches on from the next column, which is behind the matched text and one column further at
least. So its matches come in order and do not overlap, it passes no marker on the way to a match or to
the end of the line, and it ends after one step a column at most. Every marker of the line is therefore
matched or stands inside a match. -/
namespace LineFold.Scan
open Pattern (Line)

/-- The loop along a line without a bound on its steps, from a column and a cache on. It has a result
only where it ends. -/
inductive Walks (rules : List Rule) (line : Line) : Nat → Cache → List Match → Prop
  | outside {column : Nat} {cache : Cache} (behind : line.size < column) :
      Walks rules line column cache []
  | missed {column : Nat} {cache after : Cache} (inside : column ≤ line.size)
      (search : cachedSearch rules line column cache = (none, after)) :
      Walks rules line column cache []
  | found {column : Nat} {cache after : Cache} {found : Match} {rest : List Match}
      (inside : column ≤ line.size)
      (search : cachedSearch rules line column cache = (some found, after))
      (later : Walks rules line (nextColumn found.span) after rest) :
      Walks rules line column cache (found :: rest)

/-- Where a walk from `column` searches for the match of a number: at the column, and then at the next
column behind the match before. -/
def cursor (column : Nat) (found : List Match) : Nat → Nat
  | 0 => column
  | k + 1 => (found[k]?).elim 0 fun before => nextColumn before.span

/-- Whether no rule has a marker from one column up to another. -/
def Clear (rules : List Rule) (line : Line) (first stop : Nat) : Prop :=
  ∀ column, first ≤ column → column < stop → ∀ rule ∈ rules, ¬MarksAt rule line column

/-- Whether a match is one that a walk finds from a column on. -/
structure NextMatch (rules : List Rule) (line : Line) (column : Nat) (found : Match) : Prop where
  column_le : column ≤ found.span.start
  start_le : found.span.start ≤ found.span.stop
  stop_le : found.span.stop ≤ line.size
  clear : Clear rules line column found.span.start
  first : FirstMarker line rules found

/-- Whether matches are all that a walk from a column finds. -/
structure Covers (rules : List Rule) (line : Line) (column : Nat) (matched : List Match) : Prop where
  next : ∀ k found, matched[k]? = some found → NextMatch rules line (cursor column matched k) found
  clear : Clear rules line (cursor column matched matched.length) (line.size + 1)

variable {rules : List Rule} {line : Line} {column : Nat} {cache : Cache} {found : Match}
  {rest matched : List Match}

section Cursor

lemma cursor_cons_succ (column : Nat) (found : Match) (rest : List Match) (k : Nat) :
    cursor column (found :: rest) (k + 1) = cursor (nextColumn found.span) rest k := by
  cases k <;> rfl

lemma NextMatch.nextColumn_le (next : NextMatch rules line column found) :
    nextColumn found.span ≤ line.size + 1 := by
  have := next.start_le
  have := next.stop_le
  rw [nextColumn]
  omega

lemma covers_nil (h : Clear rules line column (line.size + 1)) : Covers rules line column [] where
  next := fun k found hfound => by simp at hfound
  clear := h

lemma covers_cons :
    Covers rules line column (found :: rest) ↔
      NextMatch rules line column found ∧ Covers rules line (nextColumn found.span) rest := by
  constructor
  · intro covers
    refine ⟨covers.next 0 found rfl, fun k other hother => ?_, ?_⟩
    · rw [← cursor_cons_succ column]
      exact covers.next (k + 1) other hother
    · rw [← cursor_cons_succ column]
      exact covers.clear
  · rintro ⟨next, covers⟩
    refine ⟨fun k other hother => ?_, ?_⟩
    · cases k with
      | zero =>
        cases hother
        exact next
      | succ k =>
        rw [cursor_cons_succ]
        exact covers.next k other hother
    · rw [List.length_cons, cursor_cons_succ]
      exact covers.clear

end Cursor

section Walk

lemma walks_matchesFrom {fuel : Nat} (enough : line.size + 1 ≤ fuel + column)
    (fits : cache.Fits line column (alternatives rules)) :
    Walks rules line column cache (matchesFrom (alternatives rules) line fuel column cache) := by
  induction fuel generalizing column cache with
  | zero => exact .outside (by omega)
  | succ fuel ih =>
    rw [matchesFrom]
    by_cases behind : line.size < column
    · rw [if_pos behind]
      exact .outside behind
    · rw [if_neg behind]
      obtain ⟨hfound, hfits⟩ := cachedSearch_of_fits fits
      cases hsearch : cachedSearch rules line column cache with
      | mk result after =>
        rw [hsearch] at hfound hfits
        rw [show cachedSearchFrom line column (alternatives rules) cache none = (result, after)
          from hsearch]
        cases result with
        | none => exact .missed (by omega) hsearch
        | some found =>
          have hlt := lt_nextColumn_of_search (by omega) hfound.symm
          exact .found (by omega) hsearch (ih (by omega) (hfits.of_le (by omega)))

lemma nextMatch_of_search (inside : column ≤ line.size)
    (h : search rules line column = some found) : NextMatch rules line column found := by
  obtain ⟨hle, -, clear, first⟩ := search_eq_some_iff.mp h
  rw [Pattern.searchStart_eq inside] at hle clear
  obtain ⟨alternative, -, -, -, hspan⟩ := search_origin h
  obtain ⟨hstart, hstop⟩ := Pattern.stop_of_search? hspan
  exact ⟨hle, hstart, hstop, clear, first⟩

lemma covers_walkFrom (rules : List Rule) (line : Line) (column : Nat) :
    Covers rules line column (walkFrom rules line column) := by
  fun_induction walkFrom rules line column with
  | case1 column inside missed =>
    have unmarked := search_eq_none_iff.mp missed
    rw [Pattern.searchStart_eq inside] at unmarked
    exact covers_nil fun other hle hlt => unmarked other hle (by omega)
  | case2 column inside found hfound _ ih =>
    exact covers_cons.mpr ⟨nextMatch_of_search inside hfound, ih⟩
  | case3 column outside => exact covers_nil fun other hle hlt => by omega

end Walk

namespace Covers

lemma le_start (covers : Covers rules line column matched) (h : found ∈ matched) :
    column ≤ found.span.start := by
  induction matched generalizing column with
  | nil => cases h
  | cons first rest ih =>
    obtain ⟨next, covers⟩ := covers_cons.mp covers
    rcases List.mem_cons.mp h with rfl | h
    · exact next.column_le
    · have := ih covers h
      have := start_lt_nextColumn first.span
      have := next.column_le
      omega

/-- Matches come in order and do not overlap. -/
lemma pairwise (covers : Covers rules line column matched) :
    matched.Pairwise fun a b => a.span.start < b.span.start ∧ a.span.stop ≤ b.span.start := by
  induction matched generalizing column with
  | nil => exact .nil
  | cons first rest ih =>
    obtain ⟨-, covers⟩ := covers_cons.mp covers
    refine List.pairwise_cons.mpr ⟨fun other hother => ?_, ih covers⟩
    have hle := covers.le_start hother
    rw [nextColumn] at hle
    constructor
    · omega
    · omega

/-- Each match takes a column of its own. -/
lemma length_le (covers : Covers rules line column matched) (inside : column ≤ line.size + 1) :
    column + matched.length ≤ line.size + 1 := by
  induction matched generalizing column with
  | nil => exact inside
  | cons first rest ih =>
    obtain ⟨next, covers⟩ := covers_cons.mp covers
    have hrest := ih covers next.nextColumn_le
    have hfirst := start_lt_nextColumn first.span
    have hcolumn := next.column_le
    rw [List.length_cons]
    omega

/-- A marker is matched or stands inside a match. -/
lemma exists_match (covers : Covers rules line column matched) {other : Nat} {rule : Rule}
    (hle : column ≤ other) (inside : other ≤ line.size) (hrule : rule ∈ rules)
    (marks : MarksAt rule line other) :
    ∃ found ∈ matched, found.span.start ≤ other ∧ other < nextColumn found.span := by
  induction matched generalizing column with
  | nil => exact absurd marks (covers.clear other hle (by simpa using by omega) rule hrule)
  | cons first rest ih =>
    obtain ⟨next, covers⟩ := covers_cons.mp covers
    by_cases before : other < first.span.start
    · exact absurd marks (next.clear other hle before rule hrule)
    · by_cases within : other < nextColumn first.span
      · exact ⟨first, List.mem_cons_self, by omega, within⟩
      · obtain ⟨found, hmem, hfound⟩ := ih covers (by omega)
        exact ⟨found, List.mem_cons_of_mem _ hmem, hfound⟩

end Covers

/-- The loop along a line ends, with no more matches than the line has places between and around its
characters. The matches lie on the line, in order and without overlap; each is the first marker from
the column on at which the search for it began, and none is left behind the last one. So every marker
of the line is matched or stands inside a match. -/
theorem lineMatches_cover_line (rules : List Rule) (line : Line) :
    Walks rules line 0 (newCache rules) (lineMatches rules line) ∧
      (lineMatches rules line).length ≤ line.size + 1 ∧
      Covers rules line 0 (lineMatches rules line) ∧
      ((lineMatches rules line).Pairwise fun a b =>
        a.span.start < b.span.start ∧ a.span.stop ≤ b.span.start) ∧
      ∀ rule ∈ rules, ∀ column, column ≤ line.size → MarksAt rule line column →
        ∃ found ∈ lineMatches rules line,
          found.span.start ≤ column ∧ column < nextColumn found.span := by
  have covers : Covers rules line 0 (lineMatches rules line) := by
    rw [lineMatches_eq_walkFrom]
    exact covers_walkFrom rules line 0
  have hlength := covers.length_le (Nat.zero_le _)
  refine ⟨walks_matchesFrom (by omega) Cache.fits_newCache, by omega, covers, covers.pairwise, ?_⟩
  intro rule hrule column inside marks
  exact covers.exists_match (Nat.zero_le _) inside hrule marks

/-- A rule that opens at every run of a character, an empty one as well. -/
def runRule (c : Char) : Rule :=
  { bracketRule 0 c '#' with opening := ⟨"", .chars .greedy 0 none (.ofCode .exact false c.toNat)⟩ }

/-- A marker inside a run is covered by the match of the run; there are four matches, three of them
empty, and one of those is at the end of the line. -/
theorem lineMatches_cover_line_empty :
    runRule 'a' ∈ [runRule 'a'] ∧ 2 ≤ (Line.ofText "baab").size ∧
      MarksAt (runRule 'a') (Line.ofText "baab") 2 ∧
      (lineMatches [runRule 'a'] (Line.ofText "baab")).length ≤ 5 ∧
      Covers [runRule 'a'] (Line.ofText "baab") 0 (lineMatches [runRule 'a'] (Line.ofText "baab")) ∧
      ∃ found ∈ lineMatches [runRule 'a'] (Line.ofText "baab"),
        found.span.start ≤ 2 ∧ 2 < nextColumn found.span := by
  have hrule : runRule 'a' ∈ [runRule 'a'] := List.mem_cons_self
  have inside : 2 ≤ (Line.ofText "baab").size := by decide
  have marks : MarksAt (runRule 'a') (Line.ofText "baab") 2 := by decide
  obtain ⟨-, hlength, covers, -, covered⟩ :=
    lineMatches_cover_line [runRule 'a'] (Line.ofText "baab")
  exact ⟨hrule, inside, marks, hlength, covers, covered _ hrule 2 inside marks⟩

example : (lineMatches [runRule 'a'] (Line.ofText "baab")).map (·.span) =
    [⟨0, 0⟩, ⟨1, 3⟩, ⟨3, 3⟩, ⟨4, 4⟩] := by
  decide

end LineFold.Scan
