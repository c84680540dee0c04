import LineFold.Proofs.Scan.Events

/-! A search as one pass over all alternatives. Stopping at the first match that starts where the
search began makes no difference, since nothing starts earlier and later alternatives lose ties. So
a search only depends on what each alternative finds, and a search of two lists of rules gives the
earlier of what each list gives. Rules whose searches agree have the same markers on a line and the
same events in a document. -/
namespace LineFold.Scan
open Pattern (Line Span searchStart)

variable {rules others : List Rule} {rule : Rule} {line : Line} {position : Int}
  {best : Option Match}

/-- The best match once one more alternative was searched. -/
def better (line : Line) (position : Int) (best : Option Match) (alternative : Alternative) :
    Option Match :=
  match alternative.pattern.search? line position with
  | none => best
  | some span =>
    if improves best span then some ⟨alternative.kind, alternative.rule, span⟩ else best

/-- The earlier of two results of a search, the first one if both start at one column. -/
def earlier (first : Option Match) : Option Match → Option Match
  | none => first
  | some found => if improves first found.span then some found else first

/-- What a line is searched for by a rule. -/
def markers (rule : Rule) : List Pattern :=
  [rule.opening, rule.closing] ++ rule.skipLine.toList

/-- Whether a marker of a rule matches at a column. -/
def MarksAt (rule : Rule) (line : Line) (column : Nat) : Prop :=
  ∃ pattern ∈ markers rule, (pattern.regex.matchAt? line column).isSome

instance (rule : Rule) (line : Line) (column : Nat) : Decidable (MarksAt rule line column) :=
  inferInstanceAs (Decidable (∃ pattern ∈ markers rule, _))

section Fold

/-- Alternatives that find nothing earlier leave the best match as it is. -/
lemma foldl_better_of_not_improves {alternatives : List Alternative}
    (h : ∀ alternative ∈ alternatives, ∀ span,
      alternative.pattern.search? line position = some span → improves best span = false) :
    alternatives.foldl (better line position) best = best := by
  induction alternatives with
  | nil => rfl
  | cons alternative rest ih =>
    have hsame : better line position best alternative = best := by
      rw [better]
      cases hs : alternative.pattern.search? line position with
      | none => rfl
      | some span => simp [h alternative List.mem_cons_self span hs]
    rw [List.foldl_cons, hsame]
    exact ih fun other hother => h other (List.mem_cons_of_mem _ hother)

/-- What is found at the position of a search lies where the search starts. -/
lemma start_eq_searchStart {pattern : Pattern} {span : Span}
    (h : pattern.search? line position = some span) (hposition : (span.start : Int) = position) :
    span.start = searchStart line position := by
  have hsize := (Pattern.search?_eq_some_iff.mp h).2.1
  rw [← hposition, Pattern.searchStart_eq hsize]

theorem searchFrom_eq_foldl (alternatives : List Alternative) (best : Option Match) :
    searchFrom line position alternatives best =
      alternatives.foldl (better line position) best := by
  induction alternatives generalizing best with
  | nil => rfl
  | cons alternative rest ih =>
    rw [searchFrom, List.foldl_cons, better]
    cases hs : alternative.pattern.search? line position with
    | none => exact ih best
    | some span =>
      simp only
      split
      · split
        · rename_i hposition
          have hstart := start_eq_searchStart hs hposition
          refine (foldl_better_of_not_improves ?_).symm
          intro other _ found hfound
          have hle := (Pattern.search?_eq_some_iff.mp hfound).1
          simp only [improves, decide_eq_false_iff_not]
          omega
        · exact ih _
      · exact ih best

/-- What does not improve a match does not improve a better one. -/
lemma improves_eq_false_of_le {span later : Span} (h : improves best span = false)
    (hle : span.start ≤ later.start) : improves best later = false := by
  cases best with
  | none => cases h
  | some found =>
    simp only [improves, decide_eq_false_iff_not] at h ⊢
    omega

lemma improves_better {span : Span} (h : improves best span = false) (alternative : Alternative) :
    improves (better line position best alternative) span = false := by
  rw [better]
  cases alternative.pattern.search? line position with
  | none => exact h
  | some other =>
    simp only
    split
    · rename_i himproves
      by_cases hle : span.start ≤ other.start
      · rw [improves_eq_false_of_le h hle] at himproves
        cases himproves
      · simp only [improves, decide_eq_false_iff_not]
        omega
    · exact h

lemma improves_foldl_better {span : Span} (h : improves best span = false)
    (alternatives : List Alternative) :
    improves (alternatives.foldl (better line position) best) span = false := by
  induction alternatives generalizing best with
  | nil => exact h
  | cons alternative rest ih => exact ih (improves_better h alternative)

/-- What an alternative finds does not improve the best match of all. -/
theorem improves_foldl_better_of_mem {alternatives : List Alternative} {alternative : Alternative}
    {span : Span} (hmem : alternative ∈ alternatives)
    (hs : alternative.pattern.search? line position = some span) :
    improves (alternatives.foldl (better line position) best) span = false := by
  induction alternatives generalizing best with
  | nil => cases hmem
  | cons first rest ih =>
    rcases List.mem_cons.mp hmem with rfl | hmem
    · have hfirst : improves (better line position best alternative) span = false := by
        rw [better, hs]
        simp only
        split
        · simp [improves]
        · rename_i hnot
          exact Bool.eq_false_iff.mpr hnot
      exact improves_foldl_better hfirst rest
    · exact ih hmem

end Fold

section Earlier

lemma earlier_none_left (found : Option Match) : earlier none found = found := by
  cases found <;> rfl

lemma earlier_assoc (first second third : Option Match) :
    earlier (earlier first second) third = earlier first (earlier second third) := by
  cases third with
  | none => rfl
  | some z =>
    cases second with
    | none =>
      rw [earlier_none_left]
      rfl
    | some y =>
      cases first with
      | none => simp only [earlier_none_left]
      | some x =>
        by_cases hyx : y.span.start < x.span.start
        · by_cases hzy : z.span.start < y.span.start
          · have hzx : z.span.start < x.span.start := by omega
            simp [earlier, improves, hyx, hzy, hzx]
          · simp [earlier, improves, hyx, hzy]
        · by_cases hzy : z.span.start < y.span.start
          · simp [earlier, improves, hyx, hzy]
          · have hzx : ¬ z.span.start < x.span.start := by omega
            simp [earlier, improves, hyx, hzy, hzx]

lemma alternatives_append (before after : List Rule) :
    alternatives (before ++ after) = alternatives before ++ alternatives after :=
  List.flatMap_append

lemma better_eq_earlier (best : Option Match) (alternative : Alternative) :
    better line position best alternative =
      earlier best (better line position none alternative) := by
  rw [better, better]
  cases alternative.pattern.search? line position <;> rfl

lemma foldl_better_eq_earlier (best : Option Match) (alternatives : List Alternative) :
    alternatives.foldl (better line position) best =
      earlier best (alternatives.foldl (better line position) none) := by
  induction alternatives generalizing best with
  | nil => rfl
  | cons alternative rest ih =>
    rw [List.foldl_cons, List.foldl_cons, ih, ih (better line position none alternative),
      better_eq_earlier best, earlier_assoc]

/-- A search of two lists of rules gives the earlier of what each list gives. -/
theorem search_append (rules others : List Rule) (line : Line) (position : Int) :
    search (rules ++ others) line position =
      earlier (search rules line position) (search others line position) := by
  simp only [search, searchFrom_eq_foldl, alternatives_append, List.foldl_append]
  exact foldl_better_eq_earlier _ _

lemma search_cons (rule : Rule) (rules : List Rule) (line : Line) (position : Int) :
    search (rule :: rules) line position =
      earlier (search [rule] line position) (search rules line position) :=
  search_append [rule] rules line position

end Earlier

section Markers

lemma map_pattern_alternatives_singleton (rule : Rule) :
    (alternatives [rule]).map (·.pattern) = markers rule := by
  simp only [alternatives, List.flatMap_singleton, markers]
  cases rule.skipLine <;> rfl

lemma exists_alternative_of_mem_markers {pattern : Pattern} (hrule : rule ∈ rules)
    (hpattern : pattern ∈ markers rule) :
    ∃ alternative ∈ alternatives rules, alternative.pattern = pattern := by
  rw [← map_pattern_alternatives_singleton] at hpattern
  obtain ⟨alternative, hmem, heq⟩ := List.mem_map.mp hpattern
  rw [alternatives, List.flatMap_singleton] at hmem
  exact ⟨alternative, List.mem_flatMap.mpr ⟨rule, hrule, hmem⟩, heq⟩

/-- What a rule by itself finds is a match of one of its markers. -/
lemma marksAt_of_search_singleton {found : Match} (h : search [rule] line position = some found) :
    searchStart line position ≤ found.span.start ∧ found.span.start ≤ line.size ∧
      MarksAt rule line found.span.start := by
  obtain ⟨alternative, hmem, -, -, hs⟩ := search_origin h
  obtain ⟨hle, inside, hstop, -⟩ := Pattern.search?_eq_some_iff.mp hs
  have hpattern : alternative.pattern ∈ markers rule := by
    rw [← map_pattern_alternatives_singleton]
    exact List.mem_map_of_mem hmem
  exact ⟨hle, inside, alternative.pattern, hpattern, Option.isSome_of_eq_some hstop⟩

/-- Where rules have a marker, a search from there or before finds one no later. -/
lemma exists_search_of_marksAt {column : Nat} (hrule : rule ∈ rules)
    (marks : MarksAt rule line column) (hle : searchStart line position ≤ column)
    (inside : column ≤ line.size) :
    ∃ found, search rules line position = some found ∧ found.span.start ≤ column := by
  obtain ⟨pattern, hpattern, hmatch⟩ := marks
  obtain ⟨alternative, hmem, rfl⟩ := exists_alternative_of_mem_markers hrule hpattern
  obtain ⟨span, hspan, hstart⟩ := Pattern.exists_search?_of_matchAt? hmatch hle inside
  have hnot : improves ((alternatives rules).foldl (better line position) none) span = false :=
    improves_foldl_better_of_mem hmem hspan
  rw [search, searchFrom_eq_foldl]
  cases hfound : (alternatives rules).foldl (better line position) none with
  | none => simp [hfound, improves] at hnot
  | some found =>
    simp only [hfound, improves, decide_eq_false_iff_not, not_lt] at hnot
    exact ⟨found, rfl, hnot.trans hstart⟩

lemma bounds_of_search {found : Match} (h : search rules line position = some found) :
    searchStart line position ≤ found.span.start ∧ found.span.start ≤ line.size := by
  obtain ⟨alternative, -, -, -, hs⟩ := search_origin h
  obtain ⟨hle, inside, -⟩ := Pattern.search?_eq_some_iff.mp hs
  exact ⟨hle, inside⟩

end Markers

section Congruence

lemma walkFrom_congr (h : ∀ position, search rules line position = search others line position)
    (column : Nat) : walkFrom rules line column = walkFrom others line column := by
  fun_induction walkFrom rules line column with
  | case1 column inside hnone => exact (walkFrom_none (by rw [← h, hnone])).symm
  | case2 column inside found hfound _ ih =>
    have hother : search others line column = some found := by rw [← h, hfound]
    rw [walkFrom_some inside hother, ih]
  | case3 column outside => exact (walkFrom_outside (by omega)).symm

/-- Rules whose searches agree on every line of a document have the same events in it. -/
theorem eventsFrom_congr {lines : List Line}
    (h : ∀ line ∈ lines, ∀ position, search rules line position = search others line position)
    (index : Nat) : eventsFrom rules index lines = eventsFrom others index lines := by
  induction lines generalizing index with
  | nil => rfl
  | cons line rest ih =>
    have hline : lineMatches rules line = lineMatches others line := by
      rw [lineMatches_eq_walkFrom, lineMatches_eq_walkFrom]
      exact walkFrom_congr (h line List.mem_cons_self) 0
    have hrest := ih fun other hother => h other (List.mem_cons_of_mem _ hother)
    rw [eventsFrom, eventsFrom, lineEvents, lineEvents, hline, hrest]

end Congruence

end LineFold.Scan
