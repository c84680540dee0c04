import LineFold.Proofs.Scan.Edits

/-! The stack of open markers. At every point of a run it holds, from the outermost marker to the
innermost one, some of the opening events that were passed, in the order of the document: a step puts
its own event on top, or takes markers off from the top, or changes nothing. So the lines of the markers
never decrease towards the top, and the markers of the line that the run is on lie above all others. -/
namespace LineFold.Scan
open Pattern (Line)

/-- The marker that an opening event leaves. -/
def Event.marker (event : Event) : Marker := ⟨event.rule, event.index, event.line⟩

/-- The markers of the opening events among events. -/
def openings (events : List Event) : List Marker :=
  (events.filter (·.kind = .opening)).map Event.marker

/-- Whether an end resolves a marker that lies under other ones: the innermost marker if that is on the
line of the end or of its index, else the innermost one of its index. -/
def Resolves (event : Event) (marker : Marker) : Stack → Prop
  | [] => marker.index = event.index ∨ marker.rule.index = event.rule.index
  | top :: others => top.index ≠ event.index ∧ marker.rule.index = event.rule.index ∧
      ∀ other ∈ top :: others, other.rule.index ≠ event.rule.index

/-- Whether an end has no marker to resolve: none is of its index, and none on its line is innermost. -/
def Absent (event : Event) (stack : Stack) : Prop :=
  (∀ top ∈ stack.head?, top.index ≠ event.index) ∧
    ∀ marker ∈ stack, marker.rule.index ≠ event.rule.index

/-- A point of the run over a document: the line that the run is on, with the lines before and behind
it, and the events of that line that were passed and that are still to come. -/
structure Point (rules : List Rule) (lines : List Line) where
  earlier : List Line
  line : Line
  later : List Line
  passed : List Event
  pending : List Event
  lines_eq : lines = earlier ++ line :: later
  events_eq : lineEvents rules earlier.length line = passed ++ pending

namespace Point

variable {rules : List Rule} {lines : List Line}

/-- The number of the line that the run is on. -/
def index (point : Point rules lines) : Nat := point.earlier.length

/-- All events that were passed. -/
def processed (point : Point rules lines) : List Event :=
  eventsFrom rules 0 point.earlier ++ point.passed

/-- The open markers. -/
def stack (point : Point rules lines) : Stack := stackAfter [] point.processed

end Point

variable {rules : List Rule} {lines : List Line} {stack below above : Stack} {event : Event}
  {events : List Event} {marker : Marker}

section Resolve

lemma resolve?_of_resolves (h : Resolves event marker above) :
    resolve? event (above ++ marker :: below) = some (marker, below) := by
  cases above with
  | nil =>
    have htop : marker.index = event.index ∨ marker.rule.index = event.rule.index := h
    rw [List.nil_append, resolve?, if_pos (by simpa using htop)]
  | cons top others =>
    obtain ⟨hline, hrule, hothers⟩ := h
    have htop : ¬ (decide (top.index = event.index) ||
        decide (top.rule.index = event.rule.index)) = true := by
      simp [hline, hothers top List.mem_cons_self]
    have hdrop : (others ++ marker :: below).dropWhile (·.rule.index ≠ event.rule.index) =
        marker :: below := by
      rw [List.dropWhile_append_of_pos, List.dropWhile_cons_of_neg]
      · simp [hrule]
      · intro other hother
        simpa using hothers other (List.mem_cons_of_mem _ hother)
    rw [List.cons_append, resolve?, if_neg htop, hdrop]

lemma resolve?_of_absent (h : Absent event stack) : resolve? event stack = none := by
  obtain ⟨hline, hrule⟩ := h
  cases stack with
  | nil => rfl
  | cons top others =>
    have htop : ¬ (decide (top.index = event.index) ||
        decide (top.rule.index = event.rule.index)) = true := by
      simp [hline top rfl, hrule top List.mem_cons_self]
    have hdrop : others.dropWhile (·.rule.index ≠ event.rule.index) = [] := by
      rw [List.dropWhile_eq_nil_iff]
      intro other hother
      simpa using hrule other (List.mem_cons_of_mem _ hother)
    rw [resolve?, if_neg htop, hdrop]

/-- An end has a marker to resolve or none at all. -/
lemma exists_resolves_or_absent (event : Event) (stack : Stack) :
    (∃ above marker below, stack = above ++ marker :: below ∧ Resolves event marker above) ∨
      Absent event stack := by
  cases stack with
  | nil => exact Or.inr ⟨by simp, by simp⟩
  | cons top others =>
    by_cases htop : top.index = event.index ∨ top.rule.index = event.rule.index
    · exact Or.inl ⟨[], top, others, rfl, htop⟩
    · obtain ⟨hline, hrule⟩ := not_or.mp htop
      cases hfind : others.find? (·.rule.index = event.rule.index) with
      | none =>
        rw [List.find?_eq_none] at hfind
        refine Or.inr ⟨?_, ?_⟩
        · rintro _ ⟨⟩
          exact hline
        · exact List.forall_mem_cons.mpr ⟨hrule, fun other hother => by simpa using hfind other hother⟩
      | some marker =>
        obtain ⟨hmarker, between, below, rfl, hbetween⟩ := List.find?_eq_some_iff_append.mp hfind
        refine Or.inl ⟨top :: between, marker, below, rfl, hline, by simpa using hmarker, ?_⟩
        exact List.forall_mem_cons.mpr ⟨hrule, fun other hother => by simpa using hbetween other hother⟩

/-- What is resolved lies in the stack, and all below it stays. -/
lemma exists_split_of_resolve? (h : resolve? event stack = some (marker, below)) :
    ∃ above, stack = above ++ marker :: below ∧ Resolves event marker above := by
  rcases exists_resolves_or_absent event stack with ⟨above, other, rest, hsplit, hresolves⟩ | habsent
  · rw [hsplit, resolve?_of_resolves hresolves] at h
    cases h
    exact ⟨above, hsplit, hresolves⟩
  · rw [resolve?_of_absent habsent] at h
    cases h

end Resolve

section Step

lemma step_of_resolves (closes : event.kind = .closing) (h : Resolves event marker above)
    (below : Stack) :
    step (above ++ marker :: below) event = (below, rangeOf? marker event) := by
  simp only [step, closes, resolve?_of_resolves h]

lemma step_of_absent (closes : event.kind = .closing) (h : Absent event stack) :
    step stack event = (stack, none) := by
  simp only [step, closes, resolve?_of_absent h]

/-- An event leaves its marker on top, or changes nothing, or takes off a marker that it resolves and all
those above. -/
lemma step_cases (stack : Stack) (event : Event) :
    (event.kind = .opening ∧ step stack event = (event.marker :: stack, none)) ∨
      step stack event = (stack, none) ∨
      (event.kind = .closing ∧ ∃ above marker below, stack = above ++ marker :: below ∧
        Resolves event marker above ∧ step stack event = (below, rangeOf? marker event)) := by
  cases hk : event.kind with
  | opening => exact Or.inl ⟨rfl, by simp only [step, hk, Event.marker]⟩
  | skipLine => exact Or.inr (Or.inl (by simp only [step, hk]))
  | closing =>
    rcases exists_resolves_or_absent event stack with ⟨above, marker, below, rfl, h⟩ | habsent
    · exact Or.inr (Or.inr ⟨rfl, above, marker, below, rfl, h, step_of_resolves hk h below⟩)
    · exact Or.inr (Or.inl (step_of_absent hk habsent))

lemma openings_cons (event : Event) (events : List Event) :
    openings (event :: events) = openings [event] ++ openings events := by
  rw [openings, List.filter_cons]
  split <;> simp_all [openings]

/-- After an event the stack holds, in their order, markers that it held before and that of the event. -/
lemma step_sublist (stack : Stack) (event : Event) :
    (step stack event).1.reverse.Sublist (stack.reverse ++ openings [event]) := by
  rcases step_cases stack event with ⟨opens, hs⟩ | hs | ⟨-, above, marker, below, rfl, -, hs⟩
  · simp [hs, openings, opens]
  · rw [hs]
    exact List.sublist_append_left _ _
  · rw [hs]
    refine List.Sublist.trans ?_ (List.sublist_append_left _ _)
    refine List.reverse_sublist.mpr ?_
    exact (List.sublist_cons_self marker below).trans (List.sublist_append_right above _)

/-- After events the stack holds, in their order, markers that it held before and some of theirs. -/
theorem stackAfter_sublist (stack : Stack) (events : List Event) :
    (stackAfter stack events).reverse.Sublist (stack.reverse ++ openings events) := by
  induction events generalizing stack with
  | nil =>
    rw [openings, List.filter_nil, List.map_nil, List.append_nil]
    exact List.Sublist.refl _
  | cons event rest ih =>
    refine (ih (step stack event).1).trans ?_
    rw [openings_cons event rest, ← List.append_assoc]
    exact (step_sublist stack event).append_right _

lemma mem_openings : marker ∈ openings events → ∃ event ∈ events, event.marker = marker := by
  intro h
  obtain ⟨event, hmem, heq⟩ := List.mem_map.mp h
  exact ⟨event, List.mem_of_mem_filter hmem, heq⟩

/-- Markers whose lines never decrease towards the top, nor exceed a line, are those of the line above
those of lines before it. -/
lemma exists_split_at_line {index : Nat}
    (ordered : stack.Pairwise fun inner outer => outer.index ≤ inner.index)
    (bounded : ∀ marker ∈ stack, marker.index ≤ index) :
    ∃ own outer, stack = own ++ outer ∧ (∀ marker ∈ own, marker.index = index) ∧
      ∀ marker ∈ outer, marker.index < index := by
  induction stack with
  | nil => exact ⟨[], [], rfl, by simp, by simp⟩
  | cons top rest ih =>
    obtain ⟨hbelow, ordered⟩ := List.pairwise_cons.mp ordered
    obtain ⟨htop, bounded⟩ := List.forall_mem_cons.mp bounded
    by_cases here : top.index = index
    · obtain ⟨own, outer, rfl, hown, houter⟩ := ih ordered bounded
      exact ⟨top :: own, outer, rfl, List.forall_mem_cons.mpr ⟨here, hown⟩, houter⟩
    · refine ⟨[], top :: rest, rfl, by simp, List.forall_mem_cons.mpr ⟨by omega, ?_⟩⟩
      intro marker hmarker
      have := hbelow marker hmarker
      omega

end Step

namespace Point

lemma eventsFrom_eq (point : Point rules lines) :
    eventsFrom rules 0 lines =
      point.processed ++ (point.pending ++ eventsFrom rules (point.index + 1) point.later) := by
  have hline : eventsFrom rules point.index (point.line :: point.later) =
      lineEvents rules point.index point.line ++ eventsFrom rules (point.index + 1) point.later := rfl
  have hevents : lineEvents rules point.index point.line = point.passed ++ point.pending :=
    point.events_eq
  conv_lhs => rw [point.lines_eq]
  rw [eventsFrom_append, Nat.zero_add]
  change eventsFrom rules 0 point.earlier ++
    eventsFrom rules point.index (point.line :: point.later) = _
  rw [hline, hevents, processed, List.append_assoc, List.append_assoc]

lemma belongs_of_mem_processed {point : Point rules lines} (h : event ∈ point.processed) :
    event.Belongs rules 0 lines := by
  refine belongs_of_mem_eventsFrom ?_
  rw [point.eventsFrom_eq]
  exact List.mem_append_left _ h

lemma index_le_of_mem_processed {point : Point rules lines} (h : event ∈ point.processed) :
    event.index ≤ point.index := by
  rcases List.mem_append.mp h with h | h
  · have hline := (belongs_of_mem_eventsFrom h).line_eq
    have hlt := (List.getElem?_eq_some_iff.mp hline).1
    rw [index]
    omega
  · have hmem : event ∈ lineEvents rules point.earlier.length point.line := by
      rw [point.events_eq]
      exact List.mem_append_left _ h
    exact Nat.le_of_eq (index_of_mem_lineEvents hmem)

lemma index_of_mem_pending {point : Point rules lines} (h : event ∈ point.pending) :
    event.index = point.index := by
  have hmem : event ∈ lineEvents rules point.earlier.length point.line := by
    rw [point.events_eq]
    exact List.mem_append_right _ h
  exact index_of_mem_lineEvents hmem

/-- The open markers are some of the opening events that were passed, in their order. -/
lemma stack_sublist (point : Point rules lines) :
    point.stack.reverse.Sublist (openings point.processed) :=
  stackAfter_sublist [] point.processed

lemma exists_event_of_mem_stack {point : Point rules lines} (h : marker ∈ point.stack) :
    ∃ event ∈ point.processed, event.marker = marker :=
  mem_openings (point.stack_sublist.subset (List.mem_reverse.mpr h))

lemma index_le_of_mem_stack {point : Point rules lines} (h : marker ∈ point.stack) :
    marker.index ≤ point.index := by
  obtain ⟨event, hevent, rfl⟩ := exists_event_of_mem_stack h
  exact index_le_of_mem_processed hevent

lemma line_of_mem_stack {point : Point rules lines} (h : marker ∈ point.stack) :
    lines[marker.index]? = some marker.line := by
  obtain ⟨event, hevent, rfl⟩ := exists_event_of_mem_stack h
  exact (belongs_of_mem_processed hevent).line_eq

lemma stack_pairwise (point : Point rules lines) :
    point.stack.Pairwise fun inner outer => outer.index ≤ inner.index := by
  have hevents : point.processed.Pairwise fun a b => a.index ≤ b.index := by
    have h := eventsFrom_pairwise_index rules 0 lines
    rw [point.eventsFrom_eq] at h
    exact (List.pairwise_append.mp h).1
  have hopenings : (openings point.processed).Pairwise fun a b => a.index ≤ b.index :=
    List.pairwise_map.mpr (hevents.filter _)
  exact List.pairwise_reverse.mp (hopenings.sublist point.stack_sublist)

lemma index_le_head {point : Point rules lines} {top : Marker} (htop : top ∈ point.stack.head?)
    (h : marker ∈ point.stack) : marker.index ≤ top.index := by
  have hpairwise := point.stack_pairwise
  obtain ⟨rest, hstack⟩ := List.head?_eq_some_iff.mp htop
  rw [hstack] at h hpairwise
  rcases List.mem_cons.mp h with rfl | h
  · exact Nat.le_refl _
  · exact (List.pairwise_cons.mp hpairwise).1 marker h

/-- Where the innermost marker is not on the line of an end, what the end resolves is on an earlier
line: the markers of the line would all lie above it. -/
lemma index_lt_of_resolve? {point : Point rules lines} {top : Marker}
    (hevent : event.index = point.index) (htop : top ∈ point.stack.head?)
    (elsewhere : top.index ≠ event.index)
    (found : resolve? event point.stack = some (marker, below)) : marker.index < point.index := by
  obtain ⟨above, hstack, -⟩ := exists_split_of_resolve? found
  have hmarker : marker ∈ point.stack := by
    rw [hstack]
    exact List.mem_append_right _ List.mem_cons_self
  have hreached := index_le_of_mem_stack (List.mem_of_mem_head? htop)
  have hbelow := index_le_head htop hmarker
  omega

end Point

end LineFold.Scan
