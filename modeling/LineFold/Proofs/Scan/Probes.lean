import LineFold.Proofs.Scan.Cache
import Mathlib.Data.Finset.Card
import Mathlib.Data.List.Chain

/-! The searches that a walk makes. Here the cache keeps for each alternative not only what its last
search found but every search that was made for it on the line, so the walk can be seen to search. What
its histories say of the slots is what the slots of the walk hold. A slot goes from no search over matches
that start further and further on to a miss, and never back; a search is made only where the slot moves,
and from behind the start of the match that it gives up. So no alternative is searched for more often than
there are columns at which it matches, but for once. -/
namespace LineFold.Scan
open Pattern (Line Span searchStart)

/-- A search that was made for an alternative: where it began and what it found. -/
structure Probe where
  position : Int
  found : Option Span

/-- What a probe leaves in a slot. -/
def Probe.slot (probe : Probe) : Slot := .ofSearch probe.found

/-- The searches that were made for an alternative, the first one first. -/
abbrev History := List Probe

/-- What the slot of an alternative holds after its searches. -/
def History.slot (history : History) : Slot :=
  match history.getLast? with
  | none => .unsearched
  | some last => last.slot

/-- What the slot of an alternative held, one after the other. -/
def History.slots (history : History) : List Slot := .unsearched :: history.map Probe.slot

def History.refresh (pattern : Pattern) (line : Line) (position : Int) (history : History) : History :=
  if history.slot.isStale position then history ++ [⟨position, pattern.search? line position⟩]
  else history

/-- What the slots of a cache hold after searches. -/
def cacheOf (histories : List History) : Cache := histories.map History.slot

def newHistories (rules : List Rule) : List History :=
  List.replicate (alternatives rules).length []

/-- A search with a cache that reads and extends the histories of the alternatives. -/
def recordedSearchFrom (line : Line) (position : Int) :
    List Alternative → List History → Option Match → Option Match × List History
  | alternative :: rest, history :: histories, best =>
    let history := history.refresh alternative.pattern line position
    match history.slot.span? with
    | none =>
      let (result, histories) := recordedSearchFrom line position rest histories best
      (result, history :: histories)
    | some span =>
      if improves best span then
        let found := some ⟨alternative.kind, alternative.rule, span⟩
        if (span.start : Int) = position then (found, history :: histories)
        else
          let (result, histories) := recordedSearchFrom line position rest histories found
          (result, history :: histories)
      else
        let (result, histories) := recordedSearchFrom line position rest histories best
        (result, history :: histories)
  | _, histories, best => (best, histories)

def recordedSearch (rules : List Rule) (line : Line) (position : Int) (histories : List History) :
    Option Match × List History :=
  recordedSearchFrom line position (alternatives rules) histories none

section Loop

variable {σ τ : Type}

/-- The loop along a line around a search that carries a state, from a column on: what each call of the
search gives, and the state that it leaves. It has a result only where it ends. -/
inductive Loop (search : Nat → σ → Option Match × σ) (line : Line) :
    Nat → σ → List (Option Match × σ) → Prop
  | outside {column : Nat} {state : σ} (behind : line.size < column) : Loop search line column state []
  | missed {column : Nat} {state after : σ} (inside : column ≤ line.size)
      (call : search column state = (none, after)) : Loop search line column state [(none, after)]
  | found {column : Nat} {state after : σ} {found : Match} {calls : List (Option Match × σ)}
      (inside : column ≤ line.size) (call : search column state = (some found, after))
      (later : Loop search line (nextColumn found.span) after calls) :
      Loop search line column state ((some found, after) :: calls)

/-- The calls of the loop, no more than `fuel` of them. -/
def loopFrom (search : Nat → σ → Option Match × σ) (line : Line) :
    Nat → Nat → σ → List (Option Match × σ)
  | 0, _, _ => []
  | fuel + 1, column, state =>
    if line.size < column then []
    else match search column state with
      | (none, after) => [(none, after)]
      | (some found, after) =>
        (some found, after) :: loopFrom search line fuel (nextColumn found.span) after

/-- A loop seen through a map of its states that the search agrees with. -/
lemma Loop.map {search : Nat → σ → Option Match × σ} {other : Nat → τ → Option Match × τ} {f : σ → τ}
    {line : Line} {column : Nat} {state : σ} {calls : List (Option Match × σ)}
    (agrees : ∀ column state, other column (f state) =
      ((search column state).1, f (search column state).2))
    (loop : Loop search line column state calls) :
    Loop other line column (f state) (calls.map fun call => (call.1, f call.2)) := by
  induction loop with
  | outside behind => exact .outside behind
  | missed inside call => exact .missed inside (by rw [agrees, call])
  | found inside call _ ih => exact .found inside (by rw [agrees, call]) ih

end Loop

def recordedFrom (rules : List Rule) (line : Line) :
    Nat → Nat → List History → List (Option Match × List History) :=
  loopFrom (fun column => recordedSearch rules line column) line

/-- The calls of the walk along a line, with the histories that each leaves. -/
def recordedCalls (rules : List Rule) (line : Line) : List (Option Match × List History) :=
  recordedFrom rules line (line.size + 1) 0 (newHistories rules)

section Agreement

variable {rules : List Rule} {line : Line} {position : Int} {histories : List History}

lemma History.slot_concat (history : History) (probe : Probe) :
    History.slot (history ++ [probe]) = probe.slot := by
  rw [History.slot, List.getLast?_concat]

lemma History.slot_refresh (pattern : Pattern) (history : History) :
    (history.refresh pattern line position).slot = history.slot.refresh pattern line position := by
  rw [History.refresh, Slot.refresh]
  split
  · exact History.slot_concat _ _
  · rfl

/-- The slots of a search are what its histories say. -/
lemma cachedSearchFrom_cacheOf (line : Line) (position : Int) (alternatives : List Alternative)
    (histories : List History) (best : Option Match) :
    cachedSearchFrom line position alternatives (cacheOf histories) best =
      ((recordedSearchFrom line position alternatives histories best).1,
        cacheOf (recordedSearchFrom line position alternatives histories best).2) := by
  induction alternatives generalizing histories best with
  | nil => rfl
  | cons alternative rest ih =>
    cases histories with
    | nil => rfl
    | cons history histories =>
      rw [show cacheOf (history :: histories) = history.slot :: cacheOf histories from rfl,
        cachedSearchFrom, recordedSearchFrom]
      simp only [← History.slot_refresh, ih]
      cases (history.refresh alternative.pattern line position).slot.span? with
      | none => rfl
      | some span =>
        simp only
        split
        · split
          · rfl
          · rfl
        · rfl

lemma cachedSearch_cacheOf (rules : List Rule) (line : Line) (position : Int)
    (histories : List History) :
    cachedSearch rules line position (cacheOf histories) =
      ((recordedSearch rules line position histories).1,
        cacheOf (recordedSearch rules line position histories).2) :=
  cachedSearchFrom_cacheOf line position (alternatives rules) histories none

lemma cacheOf_newHistories (rules : List Rule) : cacheOf (newHistories rules) = newCache rules := by
  rw [cacheOf, newHistories, newCache, List.map_replicate]
  rfl

/-- The matches of a walk are what the calls of the recorded one give. -/
lemma filterMap_recordedFrom (fuel column : Nat) (histories : List History) :
    (recordedFrom rules line fuel column histories).filterMap (·.1) =
      matchesFrom (alternatives rules) line fuel column (cacheOf histories) := by
  induction fuel generalizing column histories with
  | zero => rfl
  | succ fuel ih =>
    have hcall := cachedSearch_cacheOf rules line column histories
    rw [cachedSearch] at hcall
    rw [recordedFrom, loopFrom, matchesFrom, hcall]
    by_cases behind : line.size < column
    · rw [if_pos behind, if_pos behind]
      rfl
    · rw [if_neg behind, if_neg behind]
      cases hresult : recordedSearch rules line column histories with
      | mk result after =>
        cases result with
        | none => rfl
        | some found => exact congrArg (found :: ·) (ih (nextColumn found.span) after)

/-- The steps of a walk suffice for its loop. -/
lemma loop_recordedFrom {fuel column : Nat} (enough : line.size + 1 ≤ fuel + column)
    (fits : (cacheOf histories).Fits line column (alternatives rules)) :
    Loop (fun column => recordedSearch rules line column) line column histories
      (recordedFrom rules line fuel column histories) := by
  induction fuel generalizing column histories with
  | zero => exact .outside (by omega)
  | succ fuel ih =>
    rw [recordedFrom, loopFrom]
    by_cases behind : line.size < column
    · rw [if_pos behind]
      exact .outside behind
    · rw [if_neg behind]
      obtain ⟨hfound, hfits⟩ := cachedSearch_of_fits fits
      rw [cachedSearch_cacheOf] at hfound hfits
      cases hcall : recordedSearch rules line column histories with
      | mk result after =>
        rw [hcall] at hfound hfits
        cases result with
        | none => exact .missed (by omega) hcall
        | some found =>
          have hlt := lt_nextColumn_of_search (by omega) hfound.symm
          exact .found (by omega) hcall (ih (by omega) (hfits.of_le (by omega)))

end Agreement

section Forward

variable {pattern : Pattern} {line : Line} {position : Int} {slot : Slot} {history : History}

/-- Whether a slot moves forward: from no search to a result, or from a match to one that starts further
on, or from a match to a miss. -/
inductive Slot.Forward : Slot → Slot → Prop
  | first {slot : Slot} (searched : slot ≠ .unsearched) : Slot.Forward .unsearched slot
  | further {span later : Span} (lt : span.start < later.start) :
      Slot.Forward (.found span) (.found later)
  | exhausted (span : Span) : Slot.Forward (.found span) .missed

/-- A search for what a slot does not tell moves it forward. -/
lemma Slot.forward_of_isStale (inside : position ≤ line.size) (stale : slot.isStale position) :
    slot.Forward (.ofSearch (pattern.search? line position)) := by
  cases slot with
  | unsearched =>
    refine .first fun h => ?_
    cases hfound : pattern.search? line position <;> rw [hfound] at h <;> cases h
  | missed => cases stale
  | found span =>
    have behind : (span.start : Int) < position := of_decide_eq_true stale
    cases hfound : pattern.search? line position with
    | none => exact .exhausted span
    | some later =>
      have hle := (Pattern.search?_eq_some_iff.mp hfound).1
      have hstart : searchStart line position = position.toNat := Nat.min_eq_left (by omega)
      exact .further (by omega)

/-- Whether a history is one of searches that move a slot forward, each from behind the start of the
match that it gives up, and no more than `count` of them. -/
structure Paced (line : Line) (count : Nat) (alternative : Alternative) (history : History) :
    Prop where
  found_eq : ∀ probe ∈ history, probe.found = alternative.pattern.search? line probe.position
  slots_forward : history.slots.IsChain Slot.Forward
  further : history.IsChain fun before after =>
    ∀ span ∈ before.found, (span.start : Int) < after.position
  length_le : history.length ≤ count

variable {alternative : Alternative} {count more : Nat}

lemma History.getLast?_slots (history : History) : history.slots.getLast? = some history.slot := by
  rw [History.slots, History.slot, List.getLast?_cons, List.getLast?_map]
  cases history.getLast? <;> rfl

lemma Paced.mono (paced : Paced line count alternative history) (le : count ≤ more) :
    Paced line more alternative history :=
  { paced with length_le := paced.length_le.trans le }

lemma paced_nil : Paced line 0 alternative [] where
  found_eq := by simp
  slots_forward := .singleton _
  further := .nil
  length_le := le_rfl

lemma Paced.refresh (paced : Paced line count alternative history) (inside : position ≤ line.size) :
    Paced line (count + 1) alternative (history.refresh alternative.pattern line position) := by
  rw [History.refresh]
  split
  · rename_i stale
    refine ⟨List.forall_mem_append.mpr ⟨paced.found_eq, by simp⟩, ?_, ?_, ?_⟩
    · rw [History.slots, List.map_append, ← List.cons_append]
      refine List.isChain_append.mpr ⟨paced.slots_forward, .singleton _, ?_⟩
      intro last hlast next hnext
      rw [← History.slots, History.getLast?_slots] at hlast
      cases hlast
      cases hnext
      exact Slot.forward_of_isStale inside stale
    · refine List.isChain_append.mpr ⟨paced.further, .singleton _, ?_⟩
      intro last hlast next hnext span hspan
      cases hnext
      have hslot : history.slot = last.slot := by rw [History.slot, hlast]
      rw [hslot, Probe.slot, hspan] at stale
      exact of_decide_eq_true stale
    · rw [List.length_append]
      exact Nat.add_le_add_right paced.length_le 1
  · exact paced.mono (Nat.le_succ count)

/-- The columns of a line at which a pattern matches. -/
def columns (pattern : Pattern) (line : Line) : Finset Nat :=
  (Finset.range (line.size + 1)).filter fun column => (pattern.regex.matchAt? line column).isSome

/-- Where the match starts that a slot holds. -/
def Slot.start? (slot : Slot) : Option Nat := slot.span?.map (·.start)

variable {rest : List Slot}

/-- The matches of a slot that only moves forward start further and further on. -/
lemma isChain_start? (forward : (slot :: rest).IsChain Slot.Forward) :
    ((slot :: rest).filterMap Slot.start?).IsChain (· < ·) := by
  induction rest generalizing slot with
  | nil =>
    cases slot with
    | found span => exact .singleton _
    | unsearched => exact .nil
    | missed => exact .nil
  | cons next rest ih =>
    obtain ⟨step, later⟩ := List.isChain_cons_cons.mp forward
    cases step with
    | first => exact ih later
    | further lt => exact List.isChain_cons_cons.mpr ⟨lt, ih later⟩
    | exhausted span =>
      cases rest with
      | nil => exact .singleton _
      | cons other rest => cases (List.isChain_cons_cons.mp later).1

/-- A slot that only moves forward is left for a match each time, but for the last one. -/
lemma length_le_start? (forward : (slot :: rest).IsChain Slot.Forward) :
    rest.length ≤ (rest.filterMap Slot.start?).length + 1 := by
  induction rest generalizing slot with
  | nil => exact Nat.zero_le _
  | cons next rest ih =>
    obtain ⟨step, later⟩ := List.isChain_cons_cons.mp forward
    have hrest := ih later
    cases next with
    | unsearched =>
      cases step with
      | first searched => exact absurd rfl searched
    | found span => simpa [Slot.start?, Slot.span?] using hrest
    | missed =>
      cases rest with
      | nil => exact le_rfl
      | cons other rest => cases (List.isChain_cons_cons.mp later).1

/-- There are no more searches than columns at which the alternative matches, but for one. -/
lemma Paced.length_le_columns (paced : Paced line count alternative history) :
    history.length ≤ (columns alternative.pattern line).card + 1 := by
  have hlength := length_le_start? paced.slots_forward
  have hchain : ((history.map Probe.slot).filterMap Slot.start?).IsChain (· < ·) :=
    isChain_start? paced.slots_forward
  have hnodup := (List.isChain_iff_pairwise.mp hchain).imp fun h => Nat.ne_of_lt h
  have hsub : ((history.map Probe.slot).filterMap Slot.start?).toFinset ⊆
      columns alternative.pattern line := by
    intro column hcolumn
    obtain ⟨slot, hslot, hstart⟩ := List.mem_filterMap.mp (List.mem_toFinset.mp hcolumn)
    obtain ⟨probe, hprobe, rfl⟩ := List.mem_map.mp hslot
    rw [Slot.start?, Probe.slot, Slot.span?_ofSearch, paced.found_eq probe hprobe] at hstart
    obtain ⟨span, hspan, rfl⟩ := Option.map_eq_some_iff.mp hstart
    obtain ⟨-, inside, hit, -⟩ := Pattern.search?_eq_some_iff.mp hspan
    exact Finset.mem_filter.mpr
      ⟨Finset.mem_range.mpr (Nat.lt_succ_of_le inside), Option.isSome_of_eq_some hit⟩
  have hcard := Finset.card_le_card hsub
  rw [List.toFinset_card_of_nodup hnodup] at hcard
  rw [List.length_map] at hlength
  omega

end Forward

section Run

variable {rules : List Rule} {line : Line} {position : Int} {histories : List History}
  {alternatives : List Alternative} {best : Option Match} {count : Nat}

/-- One step of a search: the first history is refreshed, and the others are left as they are or go through
the rest of the search. -/
lemma recordedSearchFrom_cons (line : Line) (position : Int) (alternative : Alternative)
    (rest : List Alternative) (history : History) (histories : List History) (best : Option Match) :
    (recordedSearchFrom line position (alternative :: rest) (history :: histories) best).2 =
        history.refresh alternative.pattern line position :: histories ∨
      ∃ next, (recordedSearchFrom line position (alternative :: rest) (history :: histories) best).2 =
        history.refresh alternative.pattern line position ::
          (recordedSearchFrom line position rest histories next).2 := by
  rw [recordedSearchFrom]
  cases (history.refresh alternative.pattern line position).slot.span? with
  | none => exact Or.inr ⟨best, rfl⟩
  | some span =>
    simp only
    split
    · split
      · exact Or.inl rfl
      · exact Or.inr ⟨_, rfl⟩
    · exact Or.inr ⟨best, rfl⟩

/-- A call of the search keeps the pace, with one more search for an alternative at most. -/
lemma paced_recordedSearchFrom (inside : position ≤ line.size)
    (paced : List.Forall₂ (Paced line count) alternatives histories) :
    List.Forall₂ (Paced line (count + 1)) alternatives
      (recordedSearchFrom line position alternatives histories best).2 := by
  induction paced generalizing best with
  | nil => exact .nil
  | @cons alternative history rest histories paced others ih =>
    rcases recordedSearchFrom_cons line position alternative rest history histories best with
      heq | ⟨next, heq⟩
    · rw [heq]
      exact .cons (paced.refresh inside) (others.imp fun _ _ other => other.mono (Nat.le_succ count))
    · rw [heq]
      exact .cons (paced.refresh inside) ih

/-- The calls of a walk keep the pace, and of one alternative there are no more searches than matches of
the walk, but for one. -/
lemma paced_recordedFrom {fuel column : Nat}
    (paced : List.Forall₂ (Paced line count) (Scan.alternatives rules) histories) :
    ∀ call ∈ recordedFrom rules line fuel column histories,
      List.Forall₂ (Paced line (count +
        ((recordedFrom rules line fuel column histories).filterMap (·.1)).length + 1))
        (Scan.alternatives rules) call.2 := by
  induction fuel generalizing column histories count with
  | zero =>
    intro call hcall
    cases hcall
  | succ fuel ih =>
    intro call hmem
    rw [recordedFrom, loopFrom] at hmem ⊢
    by_cases behind : line.size < column
    · rw [if_pos behind] at hmem
      cases hmem
    rw [if_neg behind] at hmem ⊢
    cases hcall : recordedSearch rules line column histories with
    | mk result after =>
      have hafter : List.Forall₂ (Paced line (count + 1)) (Scan.alternatives rules) after := by
        have hpaced : List.Forall₂ (Paced line (count + 1)) (Scan.alternatives rules)
            (recordedSearch rules line column histories).2 :=
          paced_recordedSearchFrom (by omega) paced
        rwa [hcall] at hpaced
      rw [hcall] at hmem
      cases result with
      | none =>
        cases List.mem_singleton.mp hmem
        exact hafter
      | some found =>
        simp only [List.filterMap_cons, List.length_cons]
        rcases List.mem_cons.mp hmem with rfl | hlater
        · exact hafter.imp fun _ _ other => other.mono (by omega)
        · refine (ih hafter call hlater).imp fun _ _ other => other.mono ?_
          rw [recordedFrom]
          omega

/-- Whether a history is one that an earlier one has become by one more search at most. -/
def Grows (earlier later : History) : Prop := later = earlier ∨ ∃ probe, later = earlier ++ [probe]

lemma grows_refresh (pattern : Pattern) (history : History) :
    Grows history (history.refresh pattern line position) := by
  rw [History.refresh]
  split
  · exact Or.inr ⟨_, rfl⟩
  · exact Or.inl rfl

lemma grows_recordedSearchFrom :
    List.Forall₂ Grows histories (recordedSearchFrom line position alternatives histories best).2 := by
  have same (histories : List History) : List.Forall₂ Grows histories histories :=
    List.forall₂_same.mpr fun _ _ => Or.inl rfl
  induction alternatives generalizing histories best with
  | nil => exact same histories
  | cons alternative rest ih =>
    cases histories with
    | nil => exact .nil
    | cons history histories =>
      rcases recordedSearchFrom_cons line position alternative rest history histories best with
        heq | ⟨next, heq⟩
      · rw [heq]
        exact .cons (grows_refresh _ _) (same histories)
      · rw [heq]
        exact .cons (grows_refresh _ _) ih

lemma isChain_recordedFrom (fuel column : Nat) (histories : List History) :
    (histories :: (recordedFrom rules line fuel column histories).map (·.2)).IsChain
      (List.Forall₂ Grows) := by
  induction fuel generalizing column histories with
  | zero => exact .singleton _
  | succ fuel ih =>
    rw [recordedFrom, loopFrom]
    split
    · exact .singleton _
    · have grows : List.Forall₂ Grows histories (recordedSearch rules line column histories).2 :=
        grows_recordedSearchFrom
      cases hcall : recordedSearch rules line column histories with
      | mk result after =>
        rw [hcall] at grows
        cases result with
        | none => exact List.isChain_cons_cons.mpr ⟨grows, .singleton _⟩
        | some found => exact List.isChain_cons_cons.mpr ⟨grows, ih _ after⟩

end Run

/-- The walk along a line with histories is the walk along the line: it ends, its slots are those of the
walk, and so are its matches. Each call makes one more search for an alternative at most, and whatever
calls were made, the searches for an alternative have moved its slot forward, each from behind the start
of the match that it gave up. So there are no more of them than columns at which the alternative matches,
nor than matches of the walk, but for one. -/
theorem searches_move_forward (rules : List Rule) (line : Line) :
    Loop (fun column => recordedSearch rules line column) line 0 (newHistories rules)
      (recordedCalls rules line) ∧
    Loop (fun column => cachedSearch rules line column) line 0 (newCache rules)
      ((recordedCalls rules line).map fun call => (call.1, cacheOf call.2)) ∧
    (recordedCalls rules line).filterMap (·.1) = lineMatches rules line ∧
    (newHistories rules :: (recordedCalls rules line).map (·.2)).IsChain (List.Forall₂ Grows) ∧
    ∀ call ∈ recordedCalls rules line,
      List.Forall₂ (fun alternative history =>
          Paced line ((lineMatches rules line).length + 1) alternative history ∧
            history.length ≤ (columns alternative.pattern line).card + 1)
        (alternatives rules) call.2 := by
  have fits : (cacheOf (newHistories rules)).Fits line (0 : Nat) (alternatives rules) := by
    rw [cacheOf_newHistories]
    exact Cache.fits_newCache
  have loop : Loop (fun column => recordedSearch rules line column) line 0 (newHistories rules)
      (recordedCalls rules line) :=
    loop_recordedFrom (Nat.le_refl _) fits
  have hmatches : (recordedCalls rules line).filterMap (·.1) = lineMatches rules line := by
    rw [recordedCalls, filterMap_recordedFrom, cacheOf_newHistories, lineMatches]
  have start : List.Forall₂ (Paced line 0) (alternatives rules) (newHistories rules) := by
    rw [newHistories]
    induction alternatives rules with
    | nil => exact .nil
    | cons alternative rest ih => exact .cons paced_nil ih
  refine ⟨loop, ?_, hmatches, isChain_recordedFrom _ _ _, fun call hcall => ?_⟩
  · rw [← cacheOf_newHistories]
    exact loop.map fun column histories => cachedSearch_cacheOf rules line column histories
  · have paced := paced_recordedFrom start call hcall
    rw [← recordedCalls, hmatches, Nat.zero_add] at paced
    exact paced.imp fun _ _ h => ⟨h, h.length_le_columns⟩

/-- The searches for the closing bracket on a line with two of them: two matches and a miss behind the
last column, the first one made only once the opening bracket is passed. -/
def closingProbes : History := [⟨1, some ⟨1, 2⟩⟩, ⟨2, some ⟨2, 3⟩⟩, ⟨3, none⟩]

/-- The closing bracket matches at two columns and is searched for three times. -/
theorem searches_move_forward_tight :
    (none, [[⟨0, some ⟨0, 1⟩⟩, ⟨1, none⟩], closingProbes]) ∈
      recordedCalls [bracketRule 0 '(' ')'] (Line.ofText "())") ∧
    Paced (Line.ofText "())") ((lineMatches [bracketRule 0 '(' ')'] (Line.ofText "())")).length + 1)
      ⟨.closing, bracketRule 0 '(' ')', (bracketRule 0 '(' ')').closing⟩ closingProbes ∧
    closingProbes.length = 3 ∧
    (columns (bracketRule 0 '(' ')').closing (Line.ofText "())")).card + 1 = 3 := by
  have hlast : (recordedCalls [bracketRule 0 '(' ')'] (Line.ofText "())")).getLast? =
      some (none, [[⟨0, some ⟨0, 1⟩⟩, ⟨1, none⟩], closingProbes]) := rfl
  have hmem := List.mem_of_getLast? hlast
  obtain ⟨-, -, -, -, paced⟩ :=
    searches_move_forward [bracketRule 0 '(' ')'] (Line.ofText "())")
  cases paced _ hmem with
  | cons _ closing =>
    cases closing with
    | cons closing _ => exact ⟨hmem, closing.1, rfl, by decide⟩

end LineFold.Scan
