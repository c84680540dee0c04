import LineFold.Proofs.Scan.Leftmost

/-! A search without a cache answers like one alternation of all markers that is tried column by
column. At a column the alternation takes the first marker that matches there, rule by rule in the
order of declaration, and of one rule the opening marker before the closing one and this before the
skip marker. The search compares what each marker finds by itself instead; it gives the marker of the
alternation at the least column from its position on, and nothing only where no marker matches. -/
namespace LineFold.Scan
open Pattern (Line Span searchStart)

/-- Whether a match is the first one that a rule by itself has at the column of the match. -/
inductive FirstOfRule (rule : Rule) (line : Line) : Match → Prop where
  | opening {column stop : Nat} (hit : rule.opening.regex.matchAt? line column = some stop) :
      FirstOfRule rule line ⟨.opening, rule, ⟨column, stop⟩⟩
  | closing {column stop : Nat} (notOpening : rule.opening.regex.matchAt? line column = none)
      (hit : rule.closing.regex.matchAt? line column = some stop) :
      FirstOfRule rule line ⟨.closing, rule, ⟨column, stop⟩⟩
  | skipLine {column stop : Nat} {pattern : Pattern}
      (notOpening : rule.opening.regex.matchAt? line column = none)
      (notClosing : rule.closing.regex.matchAt? line column = none)
      (marker : rule.skipLine = some pattern) (hit : pattern.regex.matchAt? line column = some stop) :
      FirstOfRule rule line ⟨.skipLine, rule, ⟨column, stop⟩⟩

/-- Whether a match is the first one that rules have at the column of the match. -/
inductive FirstMarker (line : Line) : List Rule → Match → Prop where
  | here {rule : Rule} {rest : List Rule} {found : Match} (first : FirstOfRule rule line found) :
      FirstMarker line (rule :: rest) found
  | later {rule : Rule} {rest : List Rule} {found : Match}
      (unmarked : ¬MarksAt rule line found.span.start) (first : FirstMarker line rest found) :
      FirstMarker line (rule :: rest) found

variable {rules : List Rule} {rule : Rule} {line : Line} {position : Int} {found other : Match}

section FirstOfRule

lemma marksAt_iff {column : Nat} :
    MarksAt rule line column ↔ (rule.opening.regex.matchAt? line column).isSome ∨
      (rule.closing.regex.matchAt? line column).isSome ∨
        ∃ pattern, rule.skipLine = some pattern ∧ (pattern.regex.matchAt? line column).isSome := by
  simp [MarksAt, markers]

lemma FirstOfRule.marksAt (first : FirstOfRule rule line found) :
    MarksAt rule line found.span.start := by
  rw [marksAt_iff]
  cases first with
  | opening hit => exact Or.inl (Option.isSome_of_eq_some hit)
  | closing notOpening hit => exact Or.inr (Or.inl (Option.isSome_of_eq_some hit))
  | skipLine notOpening notClosing marker hit =>
    exact Or.inr (Or.inr ⟨_, marker, Option.isSome_of_eq_some hit⟩)

lemma FirstOfRule.unique (first : FirstOfRule rule line found)
    (second : FirstOfRule rule line other) (same : found.span.start = other.span.start) :
    found = other := by
  cases first <;> cases second <;> simp_all

lemma FirstMarker.exists_marksAt (first : FirstMarker line rules found) :
    ∃ rule ∈ rules, MarksAt rule line found.span.start := by
  induction first with
  | here first => exact ⟨_, List.mem_cons_self, first.marksAt⟩
  | later _ _ ih =>
    obtain ⟨rule, hmem, hmarks⟩ := ih
    exact ⟨rule, List.mem_cons_of_mem _ hmem, hmarks⟩

/-- At a column there is one first match at most. -/
lemma FirstMarker.unique (first : FirstMarker line rules found)
    (second : FirstMarker line rules other) (same : found.span.start = other.span.start) :
    found = other := by
  induction first with
  | here first =>
    cases second with
    | here second => exact first.unique second same
    | later unmarked _ => exact absurd (same ▸ first.marksAt) unmarked
  | later unmarked _ ih =>
    cases second with
    | here second => exact absurd (same ▸ second.marksAt) unmarked
    | later _ second => exact ih second same

end FirstOfRule

section Search

/-- The earlier of two results is the first one unless the second one starts strictly before it. -/
lemma eq_or_lt_of_earlier {first second : Option Match} (h : earlier first second = some found) :
    first = some found ∨
      second = some found ∧ ∀ before ∈ first, found.span.start < before.span.start := by
  cases second with
  | none => exact Or.inl h
  | some later =>
    rw [earlier] at h
    by_cases himproves : improves first later.span = true
    · rw [if_pos himproves] at h
      cases h
      refine Or.inr ⟨rfl, ?_⟩
      rintro before rfl
      simpa [improves] using himproves
    · rw [if_neg himproves] at h
      exact Or.inl h

/-- A pattern that finds nothing up to a column does not match there. -/
lemma matchAt?_eq_none_of_forall_lt {pattern : Pattern} {column : Nat}
    (later : ∀ span ∈ pattern.search? line position, column < span.start)
    (hle : searchStart line position ≤ column) (inside : column ≤ line.size) :
    pattern.regex.matchAt? line column = none := by
  by_contra hmatch
  obtain ⟨span, hspan, hstart⟩ :=
    Pattern.exists_search?_of_matchAt? (Option.isSome_iff_ne_none.mpr hmatch) hle inside
  have := later span hspan
  omega

/-- What an alternative finds by itself. -/
lemma mem_better_none {alternative : Alternative} :
    found ∈ better line position none alternative ↔
      ∃ span ∈ alternative.pattern.search? line position,
        found = ⟨alternative.kind, alternative.rule, span⟩ := by
  rw [better]
  cases alternative.pattern.search? line position <;> simp [improves, eq_comm]

/-- What a rule by itself finds is its first match at that column. -/
lemma firstOfRule_of_search (h : search [rule] line position = some found) :
    FirstOfRule rule line found := by
  obtain ⟨hle, inside⟩ := bounds_of_search h
  have miss {kind : Kind} {pattern : Pattern}
      (later : ∀ before ∈ better line position none ⟨kind, rule, pattern⟩,
        found.span.start < before.span.start) :
      pattern.regex.matchAt? line found.span.start = none :=
    matchAt?_eq_none_of_forall_lt
      (fun span hspan => later _ (mem_better_none.mpr ⟨span, hspan, rfl⟩)) hle inside
  have hit {pattern : Pattern} {span : Span} (hspan : pattern.search? line position = some span) :
      pattern.regex.matchAt? line span.start = some span.stop :=
    (Pattern.search?_eq_some_iff.mp hspan).2.2.1
  have halternatives : alternatives [rule] = ⟨.opening, rule, rule.opening⟩ ::
      ⟨.closing, rule, rule.closing⟩ ::
        (rule.skipLine.map fun pattern => Alternative.mk .skipLine rule pattern).toList :=
    List.flatMap_singleton _ _
  rw [search, searchFrom_eq_foldl, halternatives, List.foldl_cons, foldl_better_eq_earlier] at h
  rcases eq_or_lt_of_earlier h with hopening | ⟨h, notOpening⟩
  · obtain ⟨span, hspan, rfl⟩ := mem_better_none.mp hopening
    exact .opening (hit hspan)
  rw [List.foldl_cons, foldl_better_eq_earlier] at h
  rcases eq_or_lt_of_earlier h with hclosing | ⟨h, notClosing⟩
  · obtain ⟨span, hspan, rfl⟩ := mem_better_none.mp hclosing
    exact .closing (miss notOpening) (hit hspan)
  cases hskip : rule.skipLine with
  | none => simp [hskip] at h
  | some pattern =>
    rw [hskip] at h
    obtain ⟨span, hspan, rfl⟩ := mem_better_none.mp (show found ∈ better line position none _ from h)
    exact .skipLine (miss notOpening) (miss notClosing) hskip (hit hspan)

/-- What a search finds is the first match at its column: a marker there of a rule before would have been
found by that rule itself. -/
lemma firstMarker_of_search (h : search rules line position = some found) :
    FirstMarker line rules found := by
  induction rules with
  | nil => cases h
  | cons rule rest ih =>
    obtain ⟨hle, inside⟩ := bounds_of_search h
    rw [search_cons] at h
    rcases eq_or_lt_of_earlier h with hrule | ⟨hrest, before⟩
    · exact .here (firstOfRule_of_search hrule)
    · refine .later (fun marks => ?_) (ih hrest)
      obtain ⟨own, hown, hstart⟩ := exists_search_of_marksAt List.mem_cons_self marks hle inside
      have := before own hown
      omega

lemma search_eq_none_iff :
    search rules line position = none ↔
      ∀ column, searchStart line position ≤ column → column ≤ line.size →
        ∀ rule ∈ rules, ¬MarksAt rule line column := by
  constructor
  · intro hnone column hle inside rule hrule marks
    obtain ⟨found, hfound, -⟩ := exists_search_of_marksAt hrule marks hle inside
    cases hnone.symm.trans hfound
  · intro unmarked
    cases hsearch : search rules line position with
    | none => rfl
    | some found =>
      obtain ⟨hle, inside⟩ := bounds_of_search hsearch
      obtain ⟨rule, hrule, marks⟩ := (firstMarker_of_search hsearch).exists_marksAt
      exact absurd marks (unmarked _ hle inside rule hrule)

/-- No rule has a marker between the start of a search and what it finds. -/
lemma unmarked_of_search (h : search rules line position = some found) {column : Nat}
    (hle : searchStart line position ≤ column) (before : column < found.span.start)
    (hrule : rule ∈ rules) : ¬MarksAt rule line column := by
  intro marks
  have inside := (bounds_of_search h).2
  obtain ⟨other, hother, hstart⟩ := exists_search_of_marksAt hrule marks hle (by omega)
  cases h.symm.trans hother
  omega

lemma search_eq_some_iff :
    search rules line position = some found ↔
      searchStart line position ≤ found.span.start ∧ found.span.start ≤ line.size ∧
        (∀ column, searchStart line position ≤ column → column < found.span.start →
          ∀ rule ∈ rules, ¬MarksAt rule line column) ∧
        FirstMarker line rules found := by
  constructor
  · intro h
    obtain ⟨hle, inside⟩ := bounds_of_search h
    exact ⟨hle, inside, fun _ hcolumn before _ hrule => unmarked_of_search h hcolumn before hrule,
      firstMarker_of_search h⟩
  · rintro ⟨hle, inside, unmarked, first⟩
    obtain ⟨rule, hrule, marks⟩ := first.exists_marksAt
    obtain ⟨other, hother, hno⟩ := exists_search_of_marksAt hrule marks hle inside
    have second := firstMarker_of_search hother
    have hsame : other.span.start = found.span.start := by
      obtain ⟨rule, hrule, marks⟩ := second.exists_marksAt
      by_contra hne
      exact unmarked _ (bounds_of_search hother).1 (by omega) rule hrule marks
    rw [hother, second.unique first hsame]

end Search

/-- A search from a column of the line finds nothing only where no marker of any rule matches from
there on; and what it finds is the first match at the least column where some marker matches. -/
theorem search_finds_first (rules : List Rule) (line : Line) (position : Nat)
    (inside : position ≤ line.size) :
    (search rules line position = none ↔
      ∀ column, position ≤ column → column ≤ line.size →
        ∀ rule ∈ rules, ¬MarksAt rule line column) ∧
    ∀ found, search rules line position = some found ↔
      position ≤ found.span.start ∧ found.span.start ≤ line.size ∧
        (∀ column, position ≤ column → column < found.span.start →
          ∀ rule ∈ rules, ¬MarksAt rule line column) ∧
        FirstMarker line rules found := by
  have hstart : searchStart line position = position := Pattern.searchStart_eq inside
  rw [search_eq_none_iff, hstart]
  refine ⟨Iff.rfl, fun found => ?_⟩
  rw [search_eq_some_iff, hstart]

/-- A rule whose closing marker is its skip marker as well. -/
def tiedRule : Rule :=
  { bracketRule 0 '<' '(' with skipLine := some (bracketRule 1 '(' ')').opening }

/-- Three markers match at one column, and the closing marker of the first rule wins; where only the
opening marker before the position matches, there is nothing to find. -/
theorem search_finds_first_tied :
    1 ≤ (Line.ofText "<a((").size ∧
      search [tiedRule, bracketRule 1 '(' ')'] (Line.ofText "<a((") 1 =
        some ⟨.closing, tiedRule, ⟨2, 3⟩⟩ ∧
      1 ≤ (Line.ofText "<a").size ∧
      search [tiedRule, bracketRule 1 '(' ')'] (Line.ofText "<a") 1 = none := by
  have inside : 1 ≤ (Line.ofText "<a((").size := by decide
  have inside' : 1 ≤ (Line.ofText "<a").size := by decide
  refine ⟨inside, ((search_finds_first _ _ 1 inside).2 _).mpr ?_, inside',
    (search_finds_first _ _ 1 inside').1.mpr (by decide)⟩
  exact ⟨by decide, by decide, by decide, .here (.closing (by decide) (by decide))⟩

end LineFold.Scan
