import LineFold.Proofs.Scan.Walk
import Mathlib.Data.List.Forall2

/-! A cache changes no answer on a walk from left to right. Slots go stale at different times: the
search stops at the first match that starts where it began and leaves the slots behind it as they
were. So the invariant speaks of one slot and one position: what the slot holds has been passed, or
is what a search from the position finds. It is kept by a search at the position and by every move
to the right. -/
namespace LineFold.Scan
open Pattern (Line Span)

/-- What a slot holds is right for searches from `position` on. -/
def Slot.Fits (pattern : Pattern) (line : Line) (position : Int) : Slot → Prop
  | unsearched => True
  | missed => pattern.search? line position = none
  | found span => span.start < position ∨ pattern.search? line position = some span

section Slot

variable {pattern : Pattern} {line : Line} {position later : Int} {slot : Slot}

lemma Slot.span?_ofSearch (span : Option Span) : (Slot.ofSearch span).span? = span := by
  cases span <;> rfl

lemma Slot.fits_ofSearch :
    (Slot.ofSearch (pattern.search? line position)).Fits pattern line position := by
  cases hs : pattern.search? line position with
  | none => exact hs
  | some span => exact Or.inr hs

lemma Slot.Fits.refresh (h : slot.Fits pattern line position) :
    (slot.refresh pattern line position).Fits pattern line position := by
  rw [Slot.refresh]
  split
  · exact Slot.fits_ofSearch
  · exact h

/-- After a refresh a slot holds what a search finds. -/
lemma Slot.Fits.span?_refresh (h : slot.Fits pattern line position) :
    (slot.refresh pattern line position).span? = pattern.search? line position := by
  rw [Slot.refresh]
  cases slot with
  | unsearched => exact Slot.span?_ofSearch _
  | missed => exact Eq.symm h
  | found span =>
    by_cases passed : (span.start : Int) < position
    · simp only [Slot.isStale, passed, decide_true, if_true]
      exact Slot.span?_ofSearch _
    · simp only [Slot.isStale, passed, decide_false, Bool.false_eq_true, if_false]
      exact (h.resolve_left passed).symm

lemma Slot.Fits.of_le (h : slot.Fits pattern line position) (hle : position ≤ later) :
    slot.Fits pattern line later := by
  cases slot with
  | unsearched => trivial
  | missed => exact Pattern.search?_eq_none_of_le h hle
  | found span =>
    rcases h with passed | found
    · exact Or.inl (by omega)
    · by_cases ahead : later ≤ span.start
      · exact Or.inr (Pattern.search?_eq_some_of_le found hle ahead)
      · exact Or.inl (by omega)

end Slot

/-- Every slot of a cache fits its alternative. -/
def Cache.Fits (line : Line) (position : Int) (alternatives : List Alternative)
    (cache : Cache) : Prop :=
  List.Forall₂ (fun alternative slot => slot.Fits alternative.pattern line position)
    alternatives cache

variable {rules : List Rule} {line : Line} {position later : Int} {cache : Cache}

lemma Cache.fits_newCache : (newCache rules).Fits line position (alternatives rules) := by
  rw [newCache, Cache.Fits]
  induction alternatives rules with
  | nil => exact .nil
  | cons alternative rest ih => exact .cons trivial ih

lemma Cache.Fits.of_le {alternatives : List Alternative}
    (h : cache.Fits line position alternatives) (hle : position ≤ later) :
    cache.Fits line later alternatives :=
  List.Forall₂.imp (fun _ _ fits => fits.of_le hle) h

/-- A search with fitting slots finds what a search without slots finds, and leaves them fitting. -/
theorem cachedSearchFrom_of_fits {alternatives : List Alternative}
    (h : cache.Fits line position alternatives) (best : Option Match) :
    (cachedSearchFrom line position alternatives cache best).1 =
        searchFrom line position alternatives best ∧
      (cachedSearchFrom line position alternatives cache best).2.Fits line position
        alternatives := by
  rw [Cache.Fits] at h
  induction h generalizing best with
  | nil => exact ⟨rfl, .nil⟩
  | @cons alternative slot rest slots fits others ih =>
    have hspan := fits.span?_refresh
    have hslot := fits.refresh
    rw [cachedSearchFrom, searchFrom]
    simp only [hspan]
    cases hs : alternative.pattern.search? line position with
    | none => exact ⟨(ih best).1, .cons hslot (ih best).2⟩
    | some span =>
      simp only
      split
      · split
        · exact ⟨rfl, .cons hslot others⟩
        · exact ⟨(ih _).1, .cons hslot (ih _).2⟩
      · exact ⟨(ih best).1, .cons hslot (ih best).2⟩

theorem cachedSearch_of_fits (h : cache.Fits line position (alternatives rules)) :
    (cachedSearch rules line position cache).1 = search rules line position ∧
      (cachedSearch rules line position cache).2.Fits line position (alternatives rules) :=
  cachedSearchFrom_of_fits h none

/-- What searches at several positions find that share one cache. -/
def cachedSearches (rules : List Rule) (line : Line) : List Int → Cache → List (Option Match)
  | [], _ => []
  | position :: rest, cache =>
    let (found, cache) := cachedSearch rules line position cache
    found :: cachedSearches rules line rest cache

lemma cachedSearches_of_fits {positions : List Int} (sorted : positions.Pairwise (· ≤ ·))
    (h : ∀ first ∈ positions.head?, cache.Fits line first (alternatives rules)) :
    cachedSearches rules line positions cache = positions.map (search rules line) := by
  induction positions generalizing cache with
  | nil => rfl
  | cons position rest ih =>
    obtain ⟨hle, sorted⟩ := List.pairwise_cons.mp sorted
    obtain ⟨hfound, hfits⟩ := cachedSearch_of_fits (h position rfl)
    have next : ∀ first ∈ rest.head?,
        (cachedSearch rules line position cache).2.Fits line first (alternatives rules) := by
      intro first hfirst
      exact hfits.of_le (hle first (List.mem_of_mem_head? hfirst))
    simp only [cachedSearches, List.map_cons, hfound, ih sorted next]

lemma matchesFrom_of_fits {fuel column : Nat} (enough : line.size + 1 ≤ fuel + column)
    (h : cache.Fits line column (alternatives rules)) :
    matchesFrom (alternatives rules) line fuel column cache = walkFrom rules line column := by
  induction fuel generalizing column cache with
  | zero => exact (walkFrom_outside (by omega)).symm
  | succ fuel ih =>
    rw [matchesFrom]
    by_cases outside : line.size < column
    · rw [if_pos outside, walkFrom_outside outside]
    · rw [if_neg outside]
      obtain ⟨hfound, hfits⟩ := cachedSearch_of_fits h
      rw [cachedSearch] at hfound hfits
      cases hc : cachedSearchFrom line column (alternatives rules) cache none with
      | mk found cache' =>
        rw [hc] at hfound hfits
        cases found with
        | none => exact (walkFrom_none hfound.symm).symm
        | some found =>
          have hlt := lt_nextColumn_of_search (by omega) hfound.symm
          simp only
          rw [walkFrom_some (by omega) hfound.symm]
          rw [ih (by omega) (hfits.of_le (by omega))]

/-- The markers of a line are those of a walk without a cache. -/
lemma lineMatches_eq_walkFrom (rules : List Rule) (line : Line) :
    lineMatches rules line = walkFrom rules line 0 :=
  matchesFrom_of_fits (by omega) Cache.fits_newCache

/-- At positions that never decrease, searches that share a cache find what searches without a
cache find, and the markers of a line are those of the walk that searches anew from each column. -/
theorem cache_invisible (rules : List Rule) (line : Line) (positions : List Int)
    (sorted : positions.Pairwise (· ≤ ·)) :
    cachedSearches rules line positions (newCache rules) = positions.map (search rules line) ∧
      lineMatches rules line = walkFrom rules line 0 :=
  ⟨cachedSearches_of_fits sorted fun _ _ => Cache.fits_newCache,
    lineMatches_eq_walkFrom rules line⟩

/-- A rule whose markers are two characters. -/
def bracketRule (index : Int) (opening closing : Char) : Rule where
  index := index
  opening := ⟨opening.toString, .char (.ofCode .exact false opening.toNat)⟩
  closing := ⟨closing.toString, .char (.ofCode .exact false closing.toNat)⟩
  skipLine := none
  skipOpening := none
  skipClosing := none
  topOffset := 0
  bottomOffset := 0

/-- Positions before and behind the line, a repeated one, and slots that go stale at different
columns. -/
theorem cache_invisible_two_rules :
    [-3, 0, 1, 1, 4, 9].Pairwise (fun a b : Int => a ≤ b) ∧
      cachedSearches [bracketRule 0 '(' ')', bracketRule 1 '<' '>'] (Line.ofText "a(<)>")
          [-3, 0, 1, 1, 4, 9] (newCache [bracketRule 0 '(' ')', bracketRule 1 '<' '>']) =
        [-3, 0, 1, 1, 4, 9].map
          (search [bracketRule 0 '(' ')', bracketRule 1 '<' '>'] (Line.ofText "a(<)>")) ∧
      lineMatches [bracketRule 0 '(' ')', bracketRule 1 '<' '>'] (Line.ofText "a(<)>") =
        walkFrom [bracketRule 0 '(' ')', bracketRule 1 '<' '>'] (Line.ofText "a(<)>") 0 :=
  ⟨by decide, cache_invisible _ _ _ (by decide)⟩

example : (lineMatches [bracketRule 0 '(' ')', bracketRule 1 '<' '>'] (Line.ofText "a(<)>")).map
    (fun found => (found.rule.index, found.span.start)) = [(0, 1), (1, 2), (0, 3), (1, 4)] := by
  decide

end LineFold.Scan
