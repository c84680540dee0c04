import LineFold.Proofs.Scan.Stack
import Mathlib.Order.Bounds.Basic

/-! How a scan recovers from an end that does not fit the innermost marker. Positions on a stack are
counted from the outermost marker. An end takes the marker at one position off with all above it, and
what is given up in this way is never of its own index; only an end that has no such position leaves the
stack as it is. -/
namespace LineFold.Scan
open Pattern (Line)

variable {stack above below : Stack} {event : Event} {marker opener : Marker} {position : Nat}

/-- Whether an end resolves the marker at a position: the top one if the marker there is on the line of
the end or of its index, else the highest one with a marker of its index. -/
def ResolvesAt (event : Event) (stack : Stack) (position : Nat) : Prop :=
  ∃ top ∈ stack.head?,
    if top.index = event.index ∨ top.rule.index = event.rule.index then
      position + 1 = stack.length
    else IsGreatest {other | ∃ marker ∈ stack.reverse[other]?,
      marker.rule.index = event.rule.index} position

section Positions

lemma getElem?_reverse_append_cons (above : Stack) (marker : Marker) (below : Stack) :
    (above ++ marker :: below).reverse[below.length]? = some marker := by
  simp

lemma take_reverse_append_cons (above : Stack) (marker : Marker) (below : Stack) :
    (above ++ marker :: below).reverse.take below.length = below.reverse := by
  simp

/-- A marker that is read above a position lies above the marker there. -/
lemma mem_above_of_getElem? (higher : below.length < position)
    (h : (above ++ marker :: below).reverse[position]? = some opener) : opener ∈ above := by
  rw [List.reverse_append, List.reverse_cons, List.append_assoc,
    List.getElem?_append_right (by simp; omega)] at h
  obtain ⟨rest, hrest⟩ : ∃ rest, position - below.reverse.length = rest + 1 :=
    ⟨position - below.length - 1, by simp; omega⟩
  rw [hrest, List.singleton_append, List.getElem?_cons_succ] at h
  exact List.mem_reverse.mp (List.mem_of_getElem? h)

end Positions

section Resolve

/-- The marker that an end resolves is at the position that counts those below it. -/
lemma resolvesAt_of_resolves (h : Resolves event marker above) (below : Stack) :
    ResolvesAt event (above ++ marker :: below) below.length := by
  cases above with
  | nil =>
    have innermost : marker.index = event.index ∨ marker.rule.index = event.rule.index := h
    refine ⟨marker, rfl, ?_⟩
    rw [if_pos innermost]
    rfl
  | cons top others =>
    obtain ⟨hline, hrule, hothers⟩ := h
    have searched : ¬ (top.index = event.index ∨ top.rule.index = event.rule.index) :=
      not_or.mpr ⟨hline, hothers top List.mem_cons_self⟩
    refine ⟨top, rfl, ?_⟩
    rw [if_neg searched]
    constructor
    · exact ⟨marker, getElem?_reverse_append_cons _ marker below, hrule⟩
    · rintro other ⟨found, hfound, hindex⟩
      by_contra higher
      exact hothers found (mem_above_of_getElem? (by omega) hfound) hindex

lemma not_resolvesAt_of_absent (h : Absent event stack) : ¬ ResolvesAt event stack position := by
  rintro ⟨top, htop, hposition⟩
  have hmem := List.mem_of_mem_head? htop
  rw [if_neg (not_or.mpr ⟨h.1 top htop, h.2 top hmem⟩)] at hposition
  obtain ⟨marker, hmarker, hindex⟩ := hposition.1
  exact h.2 marker (List.mem_reverse.mp (List.mem_of_getElem? hmarker)) hindex

lemma ResolvesAt.unique {other : Nat} (h : ResolvesAt event stack position)
    (hother : ResolvesAt event stack other) : position = other := by
  obtain ⟨top, htop, hposition⟩ := h
  obtain ⟨_, htop', hother⟩ := hother
  obtain rfl := Option.mem_unique htop htop'
  split at hposition
  · rw [if_pos ‹_›] at hother
    omega
  · rw [if_neg ‹_›] at hother
    exact hposition.unique hother

/-- A position at which an end resolves a marker splits the stack there. -/
lemma ResolvesAt.exists_split (h : ResolvesAt event stack position) :
    ∃ above marker below, stack = above ++ marker :: below ∧ Resolves event marker above ∧
      position = below.length := by
  rcases exists_resolves_or_absent event stack with ⟨above, marker, below, rfl, hresolves⟩ | habsent
  · exact ⟨above, marker, below, rfl, hresolves, h.unique (resolvesAt_of_resolves hresolves below)⟩
  · exact absurd h (not_resolvesAt_of_absent habsent)

lemma absent_of_forall_not_resolvesAt (h : ∀ position, ¬ ResolvesAt event stack position) :
    Absent event stack := by
  rcases exists_resolves_or_absent event stack with ⟨above, marker, below, rfl, hresolves⟩ | habsent
  · exact absurd (resolvesAt_of_resolves hresolves below) (h _)
  · exact habsent

/-- What is given up above the marker that is resolved is of other indexes. -/
lemma Resolves.index_ne (h : Resolves event marker above) :
    ∀ other ∈ above, other.rule.index ≠ event.rule.index := by
  cases above with
  | nil => simp
  | cons top others => exact h.2.2

/-- A marker that is resolved on an earlier line is of the index of the end. -/
lemma Resolves.index_eq (h : Resolves event marker above) (earlier : marker.index < event.index) :
    marker.rule.index = event.rule.index := by
  cases above with
  | nil => exact Or.resolve_left h (by omega)
  | cons top others => exact h.2.1

end Resolve

section Step

lemma rangeOf?_eq_some_iff {range : Range} (reached : marker.index ≤ event.index) :
    rangeOf? marker event = some range ↔
      marker.index < event.index ∧ matchesAnywhere event.rule.skipOpening marker.line = false ∧
        matchesAnywhere event.rule.skipClosing event.line = false ∧
        range = ⟨marker.index + marker.rule.topOffset,
          event.index - 1 + marker.rule.bottomOffset⟩ := by
  have hearlier : marker.index < event.index ↔ marker.index ≠ event.index :=
    ⟨Nat.ne_of_lt, Nat.lt_of_le_of_ne reached⟩
  have hgives : ¬ (decide (marker.index = event.index) || isVetoed marker event) = true ↔
      marker.index ≠ event.index ∧ matchesAnywhere event.rule.skipOpening marker.line = false ∧
        matchesAnywhere event.rule.skipClosing event.line = false := by
    simp [isVetoed]
  rw [rangeOf?, hearlier]
  constructor
  · intro h
    split at h
    · cases h
    · next gives =>
      obtain ⟨elsewhere, hopening, hclosing⟩ := hgives.mp gives
      exact ⟨elsewhere, hopening, hclosing, (Option.some.inj h).symm⟩
  · rintro ⟨elsewhere, hopening, hclosing, rfl⟩
    exact if_neg (hgives.mpr ⟨elsewhere, hopening, hclosing⟩)

/-- How an end changes a stack. An end that has no position to resolve gives no range and leaves the
stack as it is. An end that has one leaves the markers below it, and what it gives up above is of other
indexes than its own. It gives a range just if the marker there is on an earlier line and neither line
has a veto; that marker is then of the index of the end. -/
theorem step_recovers (event : Event) (stack : Stack) (closes : event.kind = .closing)
    (reached : ∀ marker ∈ stack, marker.index ≤ event.index) :
    ((∀ position, ¬ ResolvesAt event stack position) → step stack event = (stack, none)) ∧
      ∀ position, ResolvesAt event stack position →
        ∃ opener, stack.reverse[position]? = some opener ∧
          (step stack event).1.reverse = stack.reverse.take position ∧
          (∀ higher other, position < higher → stack.reverse[higher]? = some other →
            other.rule.index ≠ event.rule.index) ∧
          (opener.index < event.index → opener.rule.index = event.rule.index) ∧
          ∀ range, (step stack event).2 = some range ↔
            opener.index < event.index ∧
              matchesAnywhere event.rule.skipOpening opener.line = false ∧
              matchesAnywhere event.rule.skipClosing event.line = false ∧
              range = ⟨opener.index + opener.rule.topOffset,
                event.index - 1 + opener.rule.bottomOffset⟩ := by
  constructor
  · intro nowhere
    exact step_of_absent closes (absent_of_forall_not_resolvesAt nowhere)
  · intro position hposition
    obtain ⟨above, opener, below, rfl, hresolves, rfl⟩ := hposition.exists_split
    have hopener : opener.index ≤ event.index := reached opener (by simp)
    rw [step_of_resolves closes hresolves]
    refine ⟨opener, ?_, ?_, ?_, hresolves.index_eq, fun range => rangeOf?_eq_some_iff hopener⟩
    · exact getElem?_reverse_append_cons above opener below
    · exact (take_reverse_append_cons above opener below).symm
    · intro higher other hhigher hother
      exact hresolves.index_ne other (mem_above_of_getElem? hhigher hother)

/-- A stack of two rules, and an end of the outer one. -/
def crossed : Stack :=
  [⟨bracketRule 1 '<' '>', 1, Line.ofText "<"⟩, ⟨bracketRule 0 '(' ')', 0, Line.ofText "("⟩]

def crossingEnd : Event := ⟨3, Line.ofText ")", .closing, bracketRule 0 '(' ')'⟩

/-- The marker of the other rule is given up, and the outer one gives a range. -/
theorem step_recovers_crossing :
    crossingEnd.kind = .closing ∧ (∀ marker ∈ crossed, marker.index ≤ crossingEnd.index) ∧
      ResolvesAt crossingEnd crossed 0 ∧
      (step crossed crossingEnd).1.reverse = crossed.reverse.take 0 ∧
      (step crossed crossingEnd).2 = some ⟨0, 2⟩ := by
  have closes : crossingEnd.kind = .closing := rfl
  have reached : ∀ marker ∈ crossed, marker.index ≤ crossingEnd.index := by decide
  have hresolves : Resolves crossingEnd ⟨bracketRule 0 '(' ')', 0, Line.ofText "("⟩
      [⟨bracketRule 1 '<' '>', 1, Line.ofText "<"⟩] := ⟨by decide, rfl, by decide⟩
  have hposition : ResolvesAt crossingEnd crossed 0 := resolvesAt_of_resolves hresolves []
  obtain ⟨-, recovers⟩ := step_recovers crossingEnd crossed closes reached
  obtain ⟨opener, hopener, hafter, -, -, hrange⟩ := recovers 0 hposition
  cases hopener
  exact ⟨closes, reached, hposition, hafter, (hrange _).mpr ⟨by decide, by decide, by decide, rfl⟩⟩

end Step

end LineFold.Scan
