import LineFold.Proofs.Pattern.Search

/-! Where a match ends. A match hands what it has reached to a continuation, so its end is told by
what the continuation was handed: a column of the line, and none before the one where the match
began. Each choice, round of a loop and group keeps that. A lookbehind goes back to look, but what
stands behind it goes on from where the lookbehind was met. -/
namespace LineFold.Pattern

/-- Whether one point of a match lies on the line and not before another one. -/
structure Progress.Follows (line : Line) (p q : Progress) : Prop where
  le : p.column ≤ q.column
  inside : q.column ≤ line.size

/-- Whether a matcher that starts on a line only hands on what follows its start. -/
def MovesOn (line : Line) (body : Progress → Continuation → Option Progress) : Prop :=
  ∀ (p r : Progress) (k : Continuation), p.column ≤ line.size → body p k = some r →
    ∃ q, Progress.Follows line p q ∧ k q = some r

variable {line : Line} {p q r : Progress} {column count : Nat}

namespace Progress.Follows

lemma refl (inside : p.column ≤ line.size) : Follows line p p := ⟨Nat.le_refl _, inside⟩

lemma trans (first : Follows line p q) (second : Follows line q r) : Follows line p r :=
  ⟨Nat.le_trans first.le second.le, second.inside⟩

end Progress.Follows

section Characters

lemma lt_size_of_charAt? {c : Char} (h : charAt? line column = some c) : column < line.size :=
  (Array.getElem?_eq_some_iff.mp h).1

lemma CharTest.lt_size_of_acceptsAt {test : CharTest} (h : test.acceptsAt line column = true) :
    column < line.size := by
  cases hc : charAt? line column with
  | none => simp [acceptsAt, hc] at h
  | some c => exact lt_size_of_charAt? hc

lemma CharTest.stretch_le (test : CharTest) (line : Line) (column limit : Nat) :
    test.stretch line column limit ≤ limit := by
  induction limit generalizing column with
  | zero => exact Nat.le_refl 0
  | succ limit ih =>
    rw [stretch]
    split
    · exact Nat.add_le_add_right (ih (column + 1)) 1
    · exact Nat.zero_le _

lemma Greed.le_of_mem_counts {greed : Greed} {min extra : Nat}
    (h : count ∈ greed.counts min extra) : count ≤ min + extra := by
  cases greed <;> simp [counts] at h <;> omega

/-- Characters that equal others are characters of the line. -/
lemma inside_of_sameChars {fold : Fold} {before : Nat} (inside : column ≤ line.size)
    (h : sameChars fold line before column count = true) : column + count ≤ line.size := by
  induction count generalizing before column with
  | zero => exact inside
  | succ count ih =>
    rw [sameChars] at h
    split at h
    · rename_i hc
      have hlt := lt_size_of_charAt? hc
      rw [Bool.and_eq_true] at h
      have := ih hlt h.2
      omega
    · cases h

lemma movesOn_runChars (greed : Greed) (min : Nat) (max : Option Nat) (test : CharTest) :
    MovesOn line (runChars line greed min max test) := by
  intro p r k inside h
  have within (limit : Nat) (hlimit : limit ≤ line.size - p.column)
      (h : (if test.stretch line p.column limit < min then none
        else (greed.counts min (test.stretch line p.column limit - min)).findSome? fun count =>
          k (p.advance count)) = some r) :
      ∃ q, Progress.Follows line p q ∧ k q = some r := by
    split at h
    · cases h
    · obtain ⟨count, hcount, hk⟩ := List.exists_of_findSome?_eq_some h
      have hcounts := Greed.le_of_mem_counts hcount
      have hstretch := test.stretch_le line p.column limit
      refine ⟨p.advance count, ⟨Nat.le_add_right _ _, ?_⟩, hk⟩
      change p.column + count ≤ line.size
      omega
  cases max with
  | none => exact within _ (Nat.le_refl _) h
  | some most => exact within _ (Nat.min_le_right _ _) h

end Characters

section Loops

variable {body : Progress → Continuation → Option Progress}

lemma MovesOn.rounds (moves : MovesOn line body) (count : Nat) :
    MovesOn line (rounds body count) := by
  induction count with
  | zero =>
    intro p r k inside h
    exact ⟨p, .refl inside, h⟩
  | succ count ih =>
    intro p r k inside h
    obtain ⟨q, hq, h⟩ := moves p r _ inside h
    obtain ⟨q', hq', h⟩ := ih q r k hq.inside h
    exact ⟨q', hq.trans hq', h⟩

lemma MovesOn.furtherRounds (moves : MovesOn line body) (isLazy : Bool) (fuel : Nat)
    (left last : Option Nat) : MovesOn line (furtherRounds body isLazy fuel left last) := by
  induction fuel generalizing left last with
  | zero =>
    intro p r k inside h
    exact ⟨p, .refl inside, h⟩
  | succ fuel ih =>
    intro p r k inside h
    have again (h : (body p fun q =>
          Pattern.furtherRounds body isLazy fuel (left.map (· - 1)) (some p.column) q k) = some r) :
        ∃ q, Progress.Follows line p q ∧ k q = some r := by
      obtain ⟨q, hq, h⟩ := moves p r _ inside h
      obtain ⟨q', hq', h⟩ := ih _ _ q r k hq.inside h
      exact ⟨q', hq.trans hq', h⟩
    rw [Pattern.furtherRounds] at h
    split at h
    · exact ⟨p, .refl inside, h⟩
    · split at h
      · rw [Option.orElse_eq_or, Option.or_eq_some_iff] at h
        rcases h with h | ⟨-, h⟩
        · exact ⟨p, .refl inside, h⟩
        · exact again h
      · rw [Option.orElse_eq_or, Option.or_eq_some_iff] at h
        rcases h with h | ⟨-, h⟩
        · exact again h
        · exact ⟨p, .refl inside, h⟩

/-- A matcher that is settled before its continuation is tried. -/
lemma MovesOn.settled (moves : MovesOn line body) :
    MovesOn line fun p k => (body p some).bind k := by
  intro p r k inside h
  obtain ⟨q, hq, hk⟩ := Option.bind_eq_some_iff.mp h
  obtain ⟨q', hfollows, heq⟩ := moves p q some inside hq
  cases heq
  exact ⟨q, hfollows, hk⟩

lemma MovesOn.settledRounds (moves : MovesOn line body) (fuel : Nat) (left last : Option Nat)
    (inside : p.column ≤ line.size) :
    Progress.Follows line p (settledRounds (fun q => body q some) fuel left last p) := by
  induction fuel generalizing left last p with
  | zero => exact .refl inside
  | succ fuel ih =>
    rw [Pattern.settledRounds]
    split
    · exact .refl inside
    · split
      · exact .refl inside
      · rename_i q hq
        obtain ⟨q', hfollows, heq⟩ := moves p q some inside hq
        cases heq
        exact hfollows.trans (ih _ _ hfollows.inside)

lemma MovesOn.runLoop (moves : MovesOn line body) (greed : Greed) (min : Nat) (max : Option Nat) :
    MovesOn line (runLoop line greed min max body) := by
  intro p r k inside h
  have unsettled (isLazy : Bool)
      (h : Pattern.rounds body min p (fun q => Pattern.furtherRounds body isLazy (line.size + 2)
        (max.map (· - min)) none q k) = some r) :
      ∃ q, Progress.Follows line p q ∧ k q = some r := by
    obtain ⟨q, hq, h⟩ := moves.rounds min p r _ inside h
    obtain ⟨q', hq', h⟩ := moves.furtherRounds isLazy _ _ _ q r k hq.inside h
    exact ⟨q', hq.trans hq', h⟩
  cases greed with
  | greedy => exact unsettled false h
  | lazy => exact unsettled true h
  | possessive =>
    simp only [Pattern.runLoop] at h
    split at h
    · cases h
    · rename_i q hq
      obtain ⟨q', hfollows, heq⟩ := moves.settled.rounds min p q some inside hq
      cases heq
      exact ⟨_, hfollows.trans (moves.settledRounds _ _ _ hfollows.inside), h⟩

end Loops

/-- Every pattern hands on a column of the line that is not before its start. -/
theorem Regex.movesOn_run (regex : Regex) (line : Line) :
    MovesOn line fun p k => regex.run line p k := by
  induction regex with
  | empty =>
    intro p r k inside h
    exact ⟨p, .refl inside, h⟩
  | char test =>
    intro p r k inside h
    simp only [run] at h
    split at h
    · rename_i accepts
      exact ⟨p.advance 1, ⟨Nat.le_add_right _ _, CharTest.lt_size_of_acceptsAt accepts⟩, h⟩
    · cases h
  | spot place =>
    intro p r k inside h
    simp only [run] at h
    split at h
    · exact ⟨p, .refl inside, h⟩
    · cases h
  | seq first second ihFirst ihSecond =>
    intro p r k inside h
    obtain ⟨q, hq, h⟩ := ihFirst p r _ inside h
    obtain ⟨q', hq', h⟩ := ihSecond q r k hq.inside h
    exact ⟨q', hq.trans hq', h⟩
  | alt first second ihFirst ihSecond =>
    intro p r k inside h
    simp only [run] at h
    rw [Option.orElse_eq_or, Option.or_eq_some_iff] at h
    rcases h with h | ⟨-, h⟩
    · exact ihFirst p r k inside h
    · exact ihSecond p r k inside h
  | capture index body ih =>
    intro p r k inside h
    obtain ⟨q, hq, h⟩ := ih (p.openGroup index) r _ inside h
    exact ⟨q.closeGroup index, ⟨hq.le, hq.inside⟩, h⟩
  | atomic body ih => exact ih.settled
  | chars greed min max test => exact movesOn_runChars greed min max test
  | loop greed min max body ih => exact ih.runLoop greed min max
  | backref fold index =>
    intro p r k inside h
    simp only [run] at h
    split at h
    · cases h
    · split at h
      · rename_i same
        exact ⟨_, ⟨Nat.le_add_right _ _, inside_of_sameChars inside same⟩, h⟩
      · cases h
  | ifGroup index yes no ihYes ihNo =>
    intro p r k inside h
    simp only [run] at h
    split at h
    · exact ihYes p r k inside h
    · exact ihNo p r k inside h
  | ahead negated body _ =>
    intro p r k inside h
    simp only [run] at h
    split at h
    · refine ⟨_, ?_, h⟩
      exact ⟨Nat.le_refl _, inside⟩
    · exact ⟨p, .refl inside, h⟩
    · cases h
  | behind negated width body _ =>
    intro p r k inside h
    simp only [run] at h
    split at h
    · refine ⟨_, ?_, h⟩
      exact ⟨Nat.le_refl _, inside⟩
    · exact ⟨p, .refl inside, h⟩
    · cases h

/-- A match ends on the line and not before its start. -/
lemma stop_of_matchAt? {regex : Regex} {stop : Nat} (inside : column ≤ line.size)
    (h : regex.matchAt? line column = some stop) : column ≤ stop ∧ stop ≤ line.size := by
  obtain ⟨r, hr, rfl⟩ := Option.map_eq_some_iff.mp h
  obtain ⟨q, hq, heq⟩ := regex.movesOn_run line _ r some inside hr
  cases heq
  exact ⟨hq.le, hq.inside⟩

/-- What a search finds lies on the line from end to end. -/
theorem stop_of_search? {pattern : Pattern} {position : Int} {span : Span}
    (h : pattern.search? line position = some span) :
    span.start ≤ span.stop ∧ span.stop ≤ line.size := by
  obtain ⟨-, inside, hstop, -⟩ := search?_eq_some_iff.mp h
  exact stop_of_matchAt? inside hstop

end LineFold.Pattern
