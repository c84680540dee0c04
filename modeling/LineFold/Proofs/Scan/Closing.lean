import LineFold.Proofs.Scan.Events

/-! The pairs of events that a scan resolves. The stack of markers is kept as the opening events
that left them, each with its place among all events, so that a closing event is put together with
the very event whose marker it resolves. The ranges of a scan are those of the pairs that give one.
Two facts hold of every run. What a pair opens with comes before what it closes with. Of two pairs
the one resolved later either opened before the other one or opened behind it. -/
namespace LineFold.Scan
open Pattern (Line)

/-- An event and its place among all events. -/
structure Placed where
  event : Event
  position : Nat

def place (events : List Event) : List Placed :=
  events.zipIdx.map fun (event, position) => ⟨event, position⟩

/-- The marker that an opening event leaves. -/
def Placed.marker (placed : Placed) : Marker :=
  ⟨placed.event.rule, placed.event.index, placed.event.line⟩

@[simp] lemma Placed.marker_rule (placed : Placed) : placed.marker.rule = placed.event.rule := rfl

@[simp] lemma Placed.marker_index (placed : Placed) :
    placed.marker.index = placed.event.index := rfl

@[simp] lemma Placed.marker_line (placed : Placed) : placed.marker.line = placed.event.line := rfl

/-- The held event whose marker a closing event resolves, and those below it. -/
def pick? (event : Event) : List Placed → Option (Placed × List Placed)
  | [] => none
  | top :: below =>
    if top.event.index = event.index || top.event.rule.index = event.rule.index then
      some (top, below)
    else match below.dropWhile (·.event.rule.index ≠ event.rule.index) with
      | [] => none
      | opener :: below => some (opener, below)

/-- A closing event together with the opening event whose marker it resolves. -/
structure Closing where
  opener : Placed
  closer : Placed

/-- What is held after an event, and the pair it makes. -/
def advance (held : List Placed) (placed : Placed) : List Placed × Option Closing :=
  match placed.event.kind with
  | .opening => (placed :: held, none)
  | .closing =>
    match pick? placed.event held with
    | none => (held, none)
    | some (opener, below) => (below, some ⟨opener, placed⟩)
  | .skipLine => (held, none)

def closingsFrom : List Placed → List Placed → List Closing
  | _, [] => []
  | held, placed :: rest =>
    (advance held placed).2.toList ++ closingsFrom (advance held placed).1 rest

def heldAfter (held events : List Placed) : List Placed :=
  events.foldl (fun held placed => (advance held placed).1) held

/-- The pairs that a scan resolves, in the order of their closing events. -/
def closings (rules : List Rule) (lines : List Line) : List Closing :=
  closingsFrom [] (place (eventsFrom rules 0 lines))

namespace Closing

/-- Whether the markers of a pair stand on different lines and no skip marker vetoes it. -/
def folds (closing : Closing) : Bool :=
  closing.opener.event.index ≠ closing.closer.event.index &&
    !isVetoed closing.opener.marker closing.closer.event

def range (closing : Closing) : Range :=
  ⟨closing.opener.event.index + closing.opener.event.rule.topOffset,
    closing.closer.event.index - 1 + closing.opener.event.rule.bottomOffset⟩

end Closing

/-- Whether a skip marker is absent from the line of a number. -/
def Unmarked (lines : List Line) (pattern : Option Pattern) (index : Nat) : Prop :=
  ∃ line, lines[index]? = some line ∧ matchesAnywhere pattern line = false

variable {held events rest : List Placed} {placed opener : Placed} {closing : Closing}

section Place

lemma map_event_place (events : List Event) : (place events).map (·.event) = events := by
  rw [place, List.map_map]
  exact List.zipIdx_map_fst 0 events

lemma mem_place {events : List Event} :
    placed ∈ place events ↔ events[placed.position]? = some placed.event := by
  rw [place, List.mem_map]
  constructor
  · rintro ⟨⟨event, position⟩, h, rfl⟩
    exact List.mk_mem_zipIdx_iff_getElem?.mp h
  · intro h
    exact ⟨(placed.event, placed.position), List.mk_mem_zipIdx_iff_getElem?.mpr h, rfl⟩

lemma place_pairwise_position (events : List Event) :
    (place events).Pairwise fun a b => a.position < b.position := by
  have hpos : (place events).map (·.position) = List.range' 0 events.length := by
    rw [place, List.map_map]
    exact List.zipIdx_map_snd 0 events
  rw [← List.pairwise_map (f := Placed.position) (R := (· < ·)), hpos]
  exact List.pairwise_lt_range'

end Place

section Pick

variable {event : Event} {below : List Placed}

lemma resolve?_map_marker (event : Event) (held : List Placed) :
    resolve? event (held.map Placed.marker) =
      (pick? event held).map fun (opener, below) => (opener.marker, below.map Placed.marker) := by
  cases held with
  | nil => rfl
  | cons top below =>
    have hp : ((fun marker : Marker => decide (marker.rule.index ≠ event.rule.index)) ∘
        Placed.marker) = fun placed => decide (placed.event.rule.index ≠ event.rule.index) := rfl
    rw [List.map_cons, resolve?, pick?, List.dropWhile_map, hp]
    by_cases htop : (decide (top.event.index = event.index) ||
        decide (top.event.rule.index = event.rule.index)) = true
    · have hmarker : (decide (top.marker.index = event.index) ||
          decide (top.marker.rule.index = event.rule.index)) = true := htop
      rw [if_pos htop, if_pos hmarker]
      rfl
    · have hmarker : ¬ (decide (top.marker.index = event.index) ||
          decide (top.marker.rule.index = event.rule.index)) = true := htop
      rw [if_neg htop, if_neg hmarker]
      cases below.dropWhile _ <;> rfl

/-- The event that is picked is held, on the line of the closing event or of its rule. -/
lemma eq_append_of_pick? (h : pick? event held = some (opener, below)) :
    (opener.event.index = event.index ∨ opener.event.rule.index = event.rule.index) ∧
      ∃ above, held = above ++ opener :: below := by
  cases held with
  | nil => cases h
  | cons top others =>
    rw [pick?] at h
    split at h
    · rename_i htop
      cases Option.some.inj h
      exact ⟨by simpa using htop, [], rfl⟩
    · have hsuffix := List.dropWhile_suffix (l := others) (·.event.rule.index ≠ event.rule.index)
      have hfound := List.head?_dropWhile_not (·.event.rule.index ≠ event.rule.index) others
      cases hd : others.dropWhile (·.event.rule.index ≠ event.rule.index) with
      | nil =>
        rw [hd] at h
        cases h
      | cons found under =>
        rw [hd] at h hsuffix hfound
        cases Option.some.inj h
        obtain ⟨between, rfl⟩ := hsuffix
        exact ⟨Or.inr (by simpa using hfound), top :: between, rfl⟩

end Pick

section Advance

lemma advance_opening (opens : placed.event.kind = .opening) :
    advance held placed = (placed :: held, none) := by
  simp only [advance, opens]

lemma advance_nil (closes : placed.event.kind = .closing) : advance [] placed = ([], none) := by
  simp only [advance, closes, pick?]

/-- A closing event resolves the innermost open event if that is of its rule. -/
lemma advance_cons (closes : placed.event.kind = .closing)
    (same : opener.event.rule.index = placed.event.rule.index) :
    advance (opener :: held) placed = (held, some ⟨opener, placed⟩) := by
  simp [advance, closes, pick?, same]

/-- An event is held, or changes nothing, or resolves an event that is held. -/
lemma advance_cases (held : List Placed) (placed : Placed) :
    (placed.event.kind = .opening ∧ advance held placed = (placed :: held, none)) ∨
      advance held placed = (held, none) ∨
      (placed.event.kind = .closing ∧ ∃ above opener below, held = above ++ opener :: below ∧
        (opener.event.index = placed.event.index ∨
          opener.event.rule.index = placed.event.rule.index) ∧
        advance held placed = (below, some ⟨opener, placed⟩)) := by
  cases hk : placed.event.kind with
  | opening => exact Or.inl ⟨rfl, advance_opening hk⟩
  | skipLine => exact Or.inr (Or.inl (by simp only [advance, hk]))
  | closing =>
    cases hp : pick? placed.event held with
    | none => exact Or.inr (Or.inl (by simp only [advance, hk, hp]))
    | some picked =>
      obtain ⟨opener, below⟩ := picked
      obtain ⟨same, above, split⟩ := eq_append_of_pick? hp
      exact Or.inr (Or.inr ⟨rfl, above, opener, below, split, same, by simp only [advance, hk, hp]⟩)

/-- A pair that an event makes: it closes with the event, and what it opens with was held above what
is held from now on. -/
lemma resolved_of_advance (h : (advance held placed).2 = some closing) :
    closing.closer = placed ∧ placed.event.kind = .closing ∧
      (closing.opener.event.index = placed.event.index ∨
        closing.opener.event.rule.index = placed.event.rule.index) ∧
      ∃ above, held = above ++ closing.opener :: (advance held placed).1 := by
  rcases advance_cases held placed with
    ⟨-, ha⟩ | ha | ⟨closes, above, opener, below, rfl, same, ha⟩
  · rw [ha] at h
    cases h
  · rw [ha] at h
    cases h
  · rw [ha] at h ⊢
    cases Option.some.inj h
    exact ⟨rfl, closes, same, above, rfl⟩

lemma mem_of_mem_advance (h : opener ∈ (advance held placed).1) :
    opener ∈ held ∨ opener = placed ∧ placed.event.kind = .opening := by
  rcases advance_cases held placed with ⟨opens, ha⟩ | ha | ⟨-, above, top, below, rfl, -, ha⟩
  · rw [ha] at h
    rcases List.mem_cons.mp h with rfl | h
    · exact Or.inr ⟨rfl, opens⟩
    · exact Or.inl h
  · rw [ha] at h
    exact Or.inl h
  · rw [ha] at h
    exact Or.inl (List.mem_append_right _ (List.mem_cons_of_mem _ h))

/-- The open events, the outermost first, and those to come stay in order. -/
lemma advance_pairwise {R : Placed → Placed → Prop}
    (ordered : (held.reverse ++ placed :: rest).Pairwise R) :
    ((advance held placed).1.reverse ++ rest).Pairwise R := by
  rcases advance_cases held placed with ⟨-, ha⟩ | ha | ⟨-, above, opener, below, rfl, -, ha⟩
  · rw [ha]
    simpa using ordered
  · rw [ha]
    exact ordered.sublist ((List.sublist_cons_self placed rest).append_left _)
  · rw [ha]
    refine ordered.sublist ?_
    rw [List.reverse_append, List.reverse_cons, List.append_assoc, List.append_assoc]
    refine List.Sublist.append_left ?_ _
    exact (((List.sublist_cons_self placed rest).trans (List.sublist_append_right _ _)).trans
      (List.sublist_append_right _ _))

end Advance

section Run

lemma heldAfter_append (held events rest : List Placed) :
    heldAfter held (events ++ rest) = heldAfter (heldAfter held events) rest :=
  List.foldl_append

lemma closingsFrom_append (held events rest : List Placed) :
    closingsFrom held (events ++ rest) =
      closingsFrom held events ++ closingsFrom (heldAfter held events) rest := by
  induction events generalizing held with
  | nil => rfl
  | cons placed events ih =>
    rw [List.cons_append, closingsFrom, closingsFrom, ih, List.append_assoc]
    rfl

/-- A pair comes from the next event or from those behind it. -/
lemma mem_closingsFrom_cons :
    closing ∈ closingsFrom held (placed :: rest) ↔
      (advance held placed).2 = some closing ∨
        closing ∈ closingsFrom (advance held placed).1 rest := by
  rw [closingsFrom, List.mem_append, Option.mem_toList]

/-- What a pair closes with is to come, and what it opens with is held or to come. -/
theorem mem_closingsFrom (h : closing ∈ closingsFrom held events) :
    (closing.opener ∈ held ∨ closing.opener ∈ events ∧ closing.opener.event.kind = .opening) ∧
      closing.closer ∈ events ∧ closing.closer.event.kind = .closing ∧
      (closing.opener.event.index = closing.closer.event.index ∨
        closing.opener.event.rule.index = closing.closer.event.rule.index) := by
  induction events generalizing held with
  | nil => cases h
  | cons placed rest ih =>
    rcases mem_closingsFrom_cons.mp h with hnow | hlater
    · obtain ⟨rfl, closes, same, above, hheld⟩ := resolved_of_advance hnow
      have hmem : closing.opener ∈ held := by
        rw [hheld]
        simp
      exact ⟨Or.inl hmem, List.mem_cons_self, closes, same⟩
    · obtain ⟨hopener, hcloser, hrest⟩ := ih hlater
      refine ⟨?_, List.mem_cons_of_mem _ hcloser, hrest⟩
      rcases hopener with hheld | ⟨hmem, opens⟩
      · rcases mem_of_mem_advance hheld with hheld | ⟨heq, opens⟩
        · exact Or.inl hheld
        · exact Or.inr ⟨heq ▸ List.mem_cons_self, heq ▸ opens⟩
      · exact Or.inr ⟨List.mem_cons_of_mem _ hmem, opens⟩

/-- What a pair opens with comes before what it closes with. -/
theorem opener_before_closer {R : Placed → Placed → Prop}
    (ordered : (held.reverse ++ events).Pairwise R) (h : closing ∈ closingsFrom held events) :
    R closing.opener closing.closer := by
  induction events generalizing held with
  | nil => cases h
  | cons placed rest ih =>
    rcases mem_closingsFrom_cons.mp h with hnow | hlater
    · obtain ⟨rfl, -, -, above, hheld⟩ := resolved_of_advance hnow
      have hmem : closing.opener ∈ held.reverse := by
        rw [hheld]
        simp
      exact (List.pairwise_append.mp ordered).2.2 _ hmem _ List.mem_cons_self
    · exact ih (advance_pairwise ordered) hlater

/-- Of two pairs the one resolved later closes behind the other one, and opens before it or behind it: its
opener is still held below the other one, or comes later. -/
theorem closingsFrom_pairwise {R : Placed → Placed → Prop}
    (ordered : (held.reverse ++ events).Pairwise R) :
    (closingsFrom held events).Pairwise fun a b =>
      R a.closer b.closer ∧ (R b.opener a.opener ∨ R a.closer b.opener) := by
  induction events generalizing held with
  | nil => exact .nil
  | cons placed rest ih =>
    have hrest := ih (advance_pairwise ordered)
    cases hnow : (advance held placed).2 with
    | none =>
      rw [closingsFrom, hnow]
      exact hrest
    | some a =>
      rw [closingsFrom, hnow]
      refine List.pairwise_cons.mpr ⟨?_, hrest⟩
      intro b hb
      obtain ⟨rfl, -, -, above, hheld⟩ := resolved_of_advance hnow
      obtain ⟨hopener, hcloser, -⟩ := mem_closingsFrom hb
      obtain ⟨hdone, hcome, -⟩ := List.pairwise_append.mp ordered
      have hnext := (List.pairwise_cons.mp hcome).1
      refine ⟨hnext _ hcloser, ?_⟩
      rcases hopener with hbelow | ⟨hmem, -⟩
      · rw [hheld, List.reverse_append, List.reverse_cons, List.append_assoc] at hdone
        exact Or.inl ((List.pairwise_append.mp hdone).2.2 _ (List.mem_reverse.mpr hbelow) _
          (by simp))
      · exact Or.inr (hnext _ hmem)

end Run

section Ranges

lemma step_map_marker (held : List Placed) (placed : Placed) :
    step (held.map Placed.marker) placed.event =
      ((advance held placed).1.map Placed.marker,
        (advance held placed).2.bind fun closing =>
          rangeOf? closing.opener.marker closing.closer.event) := by
  rw [step, advance]
  cases placed.event.kind with
  | opening => rfl
  | skipLine => rfl
  | closing =>
    simp only [resolve?_map_marker]
    cases pick? placed.event held <;> rfl

lemma rangesFrom_map_marker (held events : List Placed) :
    rangesFrom (held.map Placed.marker) (events.map (·.event)) =
      (closingsFrom held events).filterMap fun closing =>
        rangeOf? closing.opener.marker closing.closer.event := by
  induction events generalizing held with
  | nil => rfl
  | cons placed rest ih =>
    rw [List.map_cons, rangesFrom, closingsFrom, step_map_marker, List.filterMap_append, ← ih]
    cases (advance held placed).2 <;> rfl

lemma stackAfter_map_marker (held events : List Placed) :
    stackAfter (held.map Placed.marker) (events.map (·.event)) =
      (heldAfter held events).map Placed.marker := by
  induction events generalizing held with
  | nil => rfl
  | cons placed rest ih =>
    rw [List.map_cons, stackAfter, List.foldl_cons, step_map_marker]
    exact ih (advance held placed).1

lemma rangeOf?_eq (closing : Closing) :
    rangeOf? closing.opener.marker closing.closer.event =
      if closing.folds then some closing.range else none := by
  rw [rangeOf?]
  by_cases hline : closing.opener.event.index = closing.closer.event.index
  · simp [Closing.folds, hline]
  · cases hveto : isVetoed closing.opener.marker closing.closer.event <;>
      simp [Closing.folds, Closing.range, hveto, hline]

/-- The ranges of events are those of the pairs that fold. -/
theorem rangesFrom_eq_map_range (events : List Event) :
    rangesFrom [] events =
      ((closingsFrom [] (place events)).filter Closing.folds).map Closing.range := by
  have h := rangesFrom_map_marker [] (place events)
  rw [map_event_place] at h
  rw [← List.filterMap_eq_map, List.filterMap_filter]
  simp only [Function.comp_apply, ← rangeOf?_eq]
  exact h

/-- The markers left open are those of the events that are still held. -/
theorem stackAfter_eq_map_marker (events : List Event) :
    stackAfter [] events = (heldAfter [] (place events)).map Placed.marker := by
  have h := stackAfter_map_marker [] (place events)
  rwa [map_event_place] at h

/-- The ranges of a scan are those of the pairs that fold. -/
theorem scan_eq_map_range (rules : List Rule) (lines : List Line) :
    scan rules lines = ((closings rules lines).filter Closing.folds).map Closing.range :=
  rangesFrom_eq_map_range (eventsFrom rules 0 lines)

end Ranges

section Document

variable {rules : List Rule} {lines : List Line}

lemma belongs_of_mem_place (h : placed ∈ place (eventsFrom rules 0 lines)) :
    placed.event.Belongs rules 0 lines :=
  belongs_of_mem_eventsFrom (List.mem_of_getElem? (mem_place.mp h))

lemma mem_closings (h : closing ∈ closings rules lines) :
    closing.opener ∈ place (eventsFrom rules 0 lines) ∧
      closing.opener.event.kind = .opening ∧
      closing.closer ∈ place (eventsFrom rules 0 lines) ∧
      closing.closer.event.kind = .closing ∧
      (closing.opener.event.index = closing.closer.event.index ∨
        closing.opener.event.rule.index = closing.closer.event.rule.index) := by
  obtain ⟨hopener, hcloser, closes, same⟩ := mem_closingsFrom h
  rcases hopener with hheld | ⟨hopener, opens⟩
  · cases hheld
  · exact ⟨hopener, opens, hcloser, closes, same⟩

lemma opener_rule_mem (h : closing ∈ closings rules lines) : closing.opener.event.rule ∈ rules :=
  (belongs_of_mem_place (mem_closings h).1).rule_mem

lemma unmarked_iff (h : placed ∈ place (eventsFrom rules 0 lines)) (pattern : Option Pattern) :
    Unmarked lines pattern placed.event.index ↔
      matchesAnywhere pattern placed.event.line = false := by
  have hline : lines[placed.event.index]? = some placed.event.line :=
    (belongs_of_mem_place h).line_eq
  constructor
  · rintro ⟨line, hother, hmatch⟩
    cases Option.some.inj (hline.symm.trans hother)
    exact hmatch
  · intro hmatch
    exact ⟨placed.event.line, hline, hmatch⟩

/-- A pair folds unless its markers stand on one line or a skip marker is on one of their lines. -/
lemma folds_iff (h : closing ∈ closings rules lines) :
    closing.folds ↔ closing.opener.event.index ≠ closing.closer.event.index ∧
      Unmarked lines closing.closer.event.rule.skipOpening closing.opener.event.index ∧
      Unmarked lines closing.closer.event.rule.skipClosing closing.closer.event.index := by
  obtain ⟨hopener, -, hcloser, -⟩ := mem_closings h
  rw [unmarked_iff hopener, unmarked_iff hcloser]
  simp [Closing.folds, isVetoed]

/-- Every range is that of a pair that folds. -/
lemma exists_closing_of_mem_scan {range : Range} (h : range ∈ scan rules lines) :
    ∃ closing ∈ closings rules lines, closing.folds ∧ closing.range = range := by
  rw [scan_eq_map_range] at h
  obtain ⟨closing, hclosing, rfl⟩ := List.mem_map.mp h
  obtain ⟨hmem, folds⟩ := List.mem_filter.mp hclosing
  exact ⟨closing, hmem, folds, rfl⟩

/-- The line numbers of the events of a document never decrease. -/
lemma place_pairwise_index (rules : List Rule) (lines : List Line) :
    (place (eventsFrom rules 0 lines)).Pairwise fun a b => a.event.index ≤ b.event.index := by
  have h := eventsFrom_pairwise_index rules 0 lines
  rwa [← map_event_place (eventsFrom rules 0 lines), List.pairwise_map] at h

lemma closings_pairwise {R : Placed → Placed → Prop}
    (ordered : (place (eventsFrom rules 0 lines)).Pairwise R) :
    (closings rules lines).Pairwise fun a b =>
      R a.closer b.closer ∧ (R b.opener a.opener ∨ R a.closer b.opener) :=
  closingsFrom_pairwise ordered

lemma opener_index_le (h : closing ∈ closings rules lines) :
    closing.opener.event.index ≤ closing.closer.event.index :=
  opener_before_closer (place_pairwise_index rules lines) h

/-- The markers of a pair that folds stand on two lines, the opening one first. -/
lemma opener_index_lt (h : closing ∈ closings rules lines) (folds : closing.folds) :
    closing.opener.event.index < closing.closer.event.index :=
  Nat.lt_of_le_of_ne (opener_index_le h) ((folds_iff h).mp folds).1

lemma closer_index_lt_length (h : closing ∈ closings rules lines) :
    closing.closer.event.index < lines.length := by
  have hline : lines[closing.closer.event.index]? = some closing.closer.event.line :=
    (belongs_of_mem_place (mem_closings h).2.2.1).line_eq
  exact (List.getElem?_eq_some_iff.mp hline).1

lemma opener_position_lt (h : closing ∈ closings rules lines) :
    closing.opener.position < closing.closer.position :=
  opener_before_closer (place_pairwise_position _) h

end Document

end LineFold.Scan
