import LineFold.Proofs.Scan.Cache
import LineFold.Proofs.Scan.Leftmost

/-! A cache on searches in any order. After a step back a slot may hold a match that was found further
on, or a miss that does not hold any longer, so an answer may differ from that of a search without a
cache. But what a slot holds is a match of its alternative whenever it was found, and a slot is only used
while its match does not lie behind. So the answers are markers of the line from the position on, and a
search without a cache finds one there as well, no later. -/
namespace LineFold.Scan
open Pattern (Line Span searchStart)

section Slot

variable {pattern : Pattern} {line : Line} {position : Int} {slot : Slot} {span : Span}

/-- Whether a match that a slot holds is one of a pattern on a line. -/
def Slot.Genuine (pattern : Pattern) (line : Line) (slot : Slot) : Prop :=
  ∀ span ∈ slot.span?,
    span.start ≤ line.size ∧ pattern.regex.matchAt? line span.start = some span.stop

lemma Slot.Genuine.refresh (genuine : slot.Genuine pattern line) :
    (slot.refresh pattern line position).Genuine pattern line := by
  rw [Slot.refresh]
  split
  · intro span hspan
    rw [Slot.span?_ofSearch] at hspan
    obtain ⟨-, inside, hit, -⟩ := Pattern.search?_eq_some_iff.mp hspan
    exact ⟨inside, hit⟩
  · exact genuine

/-- What a refreshed slot holds does not lie behind, whatever it held before. -/
lemma Slot.searchStart_le_of_refresh (h : span ∈ (slot.refresh pattern line position).span?) :
    searchStart line position ≤ span.start := by
  rw [Slot.refresh] at h
  split at h
  · rw [Slot.span?_ofSearch] at h
    exact (Pattern.search?_eq_some_iff.mp h).1
  · rename_i fresh
    cases slot with
    | unsearched => cases h
    | missed => cases h
    | found held =>
      cases h
      have ahead : ¬(span.start : Int) < position := by simpa [Slot.isStale] using fresh
      exact Pattern.searchStart_le (Int.not_lt.mp ahead)

end Slot

variable {rules : List Rule} {line : Line} {position : Int} {cache : Cache} {best : Option Match}
  {found : Match}

/-- One step of a search with a cache: the slot is refreshed, and the best match stays or becomes what
the slot holds. Then the search stops or goes on. -/
lemma cachedSearchFrom_cons (line : Line) (position : Int) (alternative : Alternative)
    (rest : List Alternative) (slot : Slot) (slots : Cache) (best : Option Match) :
    ∃ next, (next = best ∨ ∃ span ∈ (slot.refresh alternative.pattern line position).span?,
        next = some ⟨alternative.kind, alternative.rule, span⟩) ∧
      (cachedSearchFrom line position (alternative :: rest) (slot :: slots) best =
          (next, slot.refresh alternative.pattern line position :: slots) ∨
        cachedSearchFrom line position (alternative :: rest) (slot :: slots) best =
          ((cachedSearchFrom line position rest slots next).1,
            slot.refresh alternative.pattern line position ::
              (cachedSearchFrom line position rest slots next).2)) := by
  rw [cachedSearchFrom]
  cases hspan : (slot.refresh alternative.pattern line position).span? with
  | none => exact ⟨best, Or.inl rfl, Or.inr rfl⟩
  | some span =>
    simp only
    split
    · refine ⟨some ⟨alternative.kind, alternative.rule, span⟩, Or.inr ⟨span, rfl, rfl⟩, ?_⟩
      split
      · exact Or.inl rfl
      · exact Or.inr rfl
    · exact ⟨best, Or.inl rfl, Or.inr rfl⟩

/-- Every slot of a cache holds a match of its alternative, if any. -/
def Cache.Genuine (line : Line) (alternatives : List Alternative) (cache : Cache) : Prop :=
  List.Forall₂ (fun alternative slot => slot.Genuine alternative.pattern line) alternatives cache

lemma Cache.genuine_newCache : (newCache rules).Genuine line (alternatives rules) := by
  rw [newCache, Cache.Genuine]
  induction alternatives rules with
  | nil => exact .nil
  | cons alternative rest ih =>
    refine .cons ?_ ih
    intro span hspan
    cases hspan

lemma Cache.Genuine.cachedSearchFrom {alternatives : List Alternative}
    (genuine : cache.Genuine line alternatives) :
    (cachedSearchFrom line position alternatives cache best).2.Genuine line alternatives := by
  rw [Cache.Genuine] at genuine
  induction genuine generalizing best with
  | nil => exact .nil
  | @cons alternative slot rest slots genuine others ih =>
    obtain ⟨next, -, heq | heq⟩ :=
      cachedSearchFrom_cons line position alternative rest slot slots best
    · rw [heq]
      exact .cons genuine.refresh others
    · rw [heq]
      exact .cons genuine.refresh ih

/-- Whether a match is one of an alternative on a line. -/
structure Alternative.Hits (line : Line) (alternative : Alternative) (found : Match) : Prop where
  kind_eq : found.kind = alternative.kind
  rule_eq : found.rule = alternative.rule
  inside : found.span.start ≤ line.size
  hit : alternative.pattern.regex.matchAt? line found.span.start = some found.span.stop

lemma pattern_mem_markers {alternative : Alternative} (h : alternative ∈ alternatives rules) :
    alternative.pattern ∈ markers alternative.rule := by
  obtain ⟨rule, hrule, hmem⟩ := List.mem_flatMap.mp h
  simp only [List.mem_append, List.mem_cons, List.not_mem_nil, or_false, Option.mem_toList,
    Option.map_eq_some_iff] at hmem
  rcases hmem with (rfl | rfl) | ⟨pattern, hpattern, rfl⟩ <;> simp_all [markers]

/-- Where an alternative of some rules has a match, a search of the rules finds one no later. -/
lemma Alternative.Hits.exists_search {alternative : Alternative}
    (hits : alternative.Hits line found) (hmem : alternative ∈ alternatives rules)
    (hle : searchStart line position ≤ found.span.start) :
    ∃ first, search rules line position = some first ∧ first.span.start ≤ found.span.start := by
  refine exists_search_of_marksAt (rule_mem_of_mem_alternatives hmem) ?_ hle hits.inside
  exact ⟨alternative.pattern, pattern_mem_markers hmem, Option.isSome_of_eq_some hits.hit⟩

/-- A result of a search with a cache is the best match so far, or a match of some alternative that does
not lie behind. -/
lemma cachedSearchFrom_origin {alternatives : List Alternative}
    (genuine : cache.Genuine line alternatives)
    (h : (cachedSearchFrom line position alternatives cache best).1 = some found) :
    best = some found ∨ searchStart line position ≤ found.span.start ∧
      ∃ alternative ∈ alternatives, alternative.Hits line found := by
  rw [Cache.Genuine] at genuine
  induction genuine generalizing best with
  | nil => exact Or.inl h
  | @cons alternative slot rest slots genuine others ih =>
    obtain ⟨next, hnext, hresult⟩ :=
      cachedSearchFrom_cons line position alternative rest slot slots best
    have origin : next = some found ∨ searchStart line position ≤ found.span.start ∧
        ∃ other ∈ rest, other.Hits line found := by
      rcases hresult with heq | heq
      · rw [heq] at h
        exact Or.inl h
      · rw [heq] at h
        exact ih h
    rcases origin with hsome | ⟨hle, other, hmem, hits⟩
    · rcases hnext with rfl | ⟨span, hspan, rfl⟩
      · exact Or.inl hsome
      · cases hsome
        obtain ⟨inside, hit⟩ := genuine.refresh span hspan
        exact Or.inr ⟨Slot.searchStart_le_of_refresh hspan, alternative, List.mem_cons_self, rfl, rfl,
          inside, hit⟩
    · exact Or.inr ⟨hle, other, List.mem_cons_of_mem _ hmem, hits⟩

/-- Whether an answer to a search from a position holds up beside that of a search without a cache. -/
structure IsSound (rules : List Rule) (line : Line) (position : Int) (answer : Option Match) : Prop where
  ahead : ∀ found ∈ answer, position ≤ found.span.start
  genuine : ∀ found ∈ answer, ∃ alternative ∈ alternatives rules, alternative.Hits line found
  not_before : ∀ found ∈ answer, ∀ first ∈ search rules line position,
    first.span.start ≤ found.span.start
  none_of_none : search rules line position = none → answer = none

lemma isSound_none : IsSound rules line position none := by
  refine ⟨?_, ?_, ?_, fun _ => rfl⟩ <;> exact fun found h => by cases h

lemma isSound_cachedSearch (genuine : cache.Genuine line (alternatives rules))
    (inside : position ≤ line.size) :
    IsSound rules line position (cachedSearch rules line position cache).1 := by
  cases hanswer : (cachedSearch rules line position cache).1 with
  | none => exact isSound_none
  | some found =>
    rcases cachedSearchFrom_origin genuine hanswer with hbest | ⟨hle, alternative, hmem, hits⟩
    · cases hbest
    have hstart : searchStart line position = position.toNat := Nat.min_eq_left (by omega)
    obtain ⟨first, hfirst, hbefore⟩ := hits.exists_search hmem hle
    refine ⟨?_, ?_, ?_, fun hnone => ?_⟩
    · rintro _ ⟨⟩
      omega
    · rintro _ ⟨⟩
      exact ⟨alternative, hmem, hits⟩
    · rintro _ ⟨⟩ other hother
      cases hfirst.symm.trans hother
      exact hbefore
    · cases hfirst.symm.trans hnone

lemma isSound_cachedSearches {positions : List Int}
    (genuine : cache.Genuine line (alternatives rules))
    (inside : ∀ position ∈ positions, position ≤ line.size) :
    List.Forall₂ (IsSound rules line) positions (cachedSearches rules line positions cache) := by
  induction positions generalizing cache with
  | nil => exact .nil
  | cons position rest ih =>
    obtain ⟨hposition, hrest⟩ := List.forall_mem_cons.mp inside
    exact .cons (isSound_cachedSearch genuine hposition) (ih genuine.cachedSearchFrom hrest)

/-- Searches that share a cache, from positions on a line in any order: each answer is a match of one of
the alternatives that starts at the position or behind it, and not before the one that a search without a
cache finds from there; and where that search finds nothing, there is no answer either. -/
theorem cachedSearches_sound (rules : List Rule) (line : Line) (positions : List Int)
    (inside : ∀ position ∈ positions, 0 ≤ position ∧ position ≤ line.size) :
    List.Forall₂ (IsSound rules line) positions
      (cachedSearches rules line positions (newCache rules)) :=
  isSound_cachedSearches Cache.genuine_newCache fun position h => (inside position h).2

/-- The search from the third column leaves a miss for the first bracket. So the search that goes back
to the first column passes over that bracket, and its answer is the one behind it. -/
theorem cachedSearches_sound_back :
    (∀ position ∈ [2, 0], 0 ≤ position ∧ position ≤ ((Line.ofText "a(<)>").size : Int)) ∧
      IsSound [bracketRule 0 '(' ')', bracketRule 1 '<' '>'] (Line.ofText "a(<)>") 0
        (some ⟨.opening, bracketRule 1 '<' '>', ⟨2, 3⟩⟩) ∧
      search [bracketRule 0 '(' ')', bracketRule 1 '<' '>'] (Line.ofText "a(<)>") 0 =
        some ⟨.opening, bracketRule 0 '(' ')', ⟨1, 2⟩⟩ := by
  have inside : ∀ position ∈ [2, 0],
      0 ≤ position ∧ position ≤ ((Line.ofText "a(<)>").size : Int) := by decide
  have answers : cachedSearches [bracketRule 0 '(' ')', bracketRule 1 '<' '>'] (Line.ofText "a(<)>")
      [2, 0] (newCache [bracketRule 0 '(' ')', bracketRule 1 '<' '>']) =
        [some ⟨.opening, bracketRule 1 '<' '>', ⟨2, 3⟩⟩,
          some ⟨.opening, bracketRule 1 '<' '>', ⟨2, 3⟩⟩] := rfl
  have sound := cachedSearches_sound [bracketRule 0 '(' ')', bracketRule 1 '<' '>'] _ _ inside
  rw [answers] at sound
  cases sound with
  | cons _ sound =>
    cases sound with
    | cons sound _ => exact ⟨inside, sound, rfl⟩

end LineFold.Scan
