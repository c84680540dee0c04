import LineFold.Proofs.Scan.Closing

/-! What pairing depends on. A closing event looks at the kinds of events, at which of them stand on
one line and at which are of one index, and at nothing else. So a change of events that keeps these
three keeps the pairs: the changed events make the pairs of the events, changed. It need only keep
them for events that can occur, of which a property tells. -/
namespace LineFold.Scan

/-- A change of events that keeps what pairing looks at, for all events with a property. -/
structure KeepsPairing (P : Event → Prop) (change : Event → Event) : Prop where
  kind : ∀ event, (change event).kind = event.kind
  line : ∀ a b, P a → P b → ((change a).index = (change b).index ↔ a.index = b.index)
  rule : ∀ a b, P a → P b →
    ((change a).rule.index = (change b).rule.index ↔ a.rule.index = b.rule.index)

def Placed.mapEvent (change : Event → Event) (placed : Placed) : Placed :=
  { placed with event := change placed.event }

def Closing.mapEvent (change : Event → Event) (closing : Closing) : Closing :=
  ⟨closing.opener.mapEvent change, closing.closer.mapEvent change⟩

variable {P : Event → Prop} {change : Event → Event} {held events : List Placed} {placed : Placed}

lemma place_map (change : Event → Event) (events : List Event) :
    place (events.map change) = (place events).map (Placed.mapEvent change) := by
  rw [place, List.zipIdx_map, List.map_map, place, List.map_map]
  rfl

lemma forall_mem_place {events : List Event} (hevents : ∀ event ∈ events, P event) :
    ∀ placed ∈ place events, P placed.event :=
  fun placed h => hevents placed.event (List.mem_of_getElem? (mem_place.mp h))

lemma dropWhile_map_of_mem {α β : Type} {g : α → β} {p : β → Bool} {q : α → Bool} {items : List α}
    (h : ∀ item ∈ items, p (g item) = q item) :
    (items.map g).dropWhile p = (items.dropWhile q).map g := by
  induction items with
  | nil => rfl
  | cons item items ih =>
    have hrest := ih fun other hother => h other (List.mem_cons_of_mem _ hother)
    rw [List.map_cons, List.dropWhile_cons, List.dropWhile_cons, h item List.mem_cons_self, hrest]
    split <;> rfl

namespace KeepsPairing

lemma pick?_map (keeps : KeepsPairing P change) {event : Event}
    (hheld : ∀ opener ∈ held, P opener.event) (hevent : P event) :
    pick? (change event) (held.map (Placed.mapEvent change)) =
      (pick? event held).map fun (opener, below) =>
        (opener.mapEvent change, below.map (Placed.mapEvent change)) := by
  have hrule : ∀ opener ∈ held,
      decide ((opener.mapEvent change).event.rule.index = (change event).rule.index) =
        decide (opener.event.rule.index = event.rule.index) := by
    intro opener h
    exact decide_eq_decide.mpr (keeps.rule opener.event event (hheld opener h) hevent)
  cases held with
  | nil => rfl
  | cons top below =>
    have hline : decide ((top.mapEvent change).event.index = (change event).index) =
        decide (top.event.index = event.index) :=
      decide_eq_decide.mpr
        (keeps.line top.event event (hheld top List.mem_cons_self) hevent)
    have hdrop : (below.map (Placed.mapEvent change)).dropWhile
          (fun opener => opener.event.rule.index ≠ (change event).rule.index) =
        (below.dropWhile (·.event.rule.index ≠ event.rule.index)).map
          (Placed.mapEvent change) := by
      refine dropWhile_map_of_mem fun opener h => ?_
      rw [decide_not, decide_not, hrule opener (List.mem_cons_of_mem _ h)]
    rw [List.map_cons, pick?, pick?, hdrop, hrule top List.mem_cons_self, hline]
    split
    · rfl
    · cases below.dropWhile _ <;> rfl

lemma advance_map (keeps : KeepsPairing P change) (hheld : ∀ opener ∈ held, P opener.event)
    (hplaced : P placed.event) :
    advance (held.map (Placed.mapEvent change)) (placed.mapEvent change) =
      ((advance held placed).1.map (Placed.mapEvent change),
        (advance held placed).2.map (Closing.mapEvent change)) := by
  have hpick : pick? (placed.mapEvent change).event (held.map (Placed.mapEvent change)) = _ :=
    keeps.pick?_map hheld hplaced
  have hkind : (placed.mapEvent change).event.kind = placed.event.kind := keeps.kind placed.event
  rw [advance, advance, hkind, hpick]
  cases placed.event.kind with
  | opening => rfl
  | skipLine => rfl
  | closing => cases pick? placed.event held <;> rfl

end KeepsPairing

/-- What is held after an event has every property that the event and all held before have. -/
lemma forall_mem_advance (hheld : ∀ opener ∈ held, P opener.event) (hplaced : P placed.event) :
    ∀ opener ∈ (advance held placed).1, P opener.event := by
  intro opener h
  rcases mem_of_mem_advance h with h | ⟨rfl, -⟩
  · exact hheld opener h
  · exact hplaced

namespace KeepsPairing

/-- Changed events make the pairs of the events, changed. -/
theorem closingsFrom_map (keeps : KeepsPairing P change)
    (hheld : ∀ opener ∈ held, P opener.event) (hevents : ∀ placed ∈ events, P placed.event) :
    closingsFrom (held.map (Placed.mapEvent change)) (events.map (Placed.mapEvent change)) =
      (closingsFrom held events).map (Closing.mapEvent change) := by
  induction events generalizing held with
  | nil => rfl
  | cons placed rest ih =>
    obtain ⟨hplaced, hrest⟩ := List.forall_mem_cons.mp hevents
    rw [List.map_cons, closingsFrom, keeps.advance_map hheld hplaced,
      ih (forall_mem_advance hheld hplaced) hrest, closingsFrom, List.map_append]
    cases (advance held placed).2 <;> rfl

theorem heldAfter_map (keeps : KeepsPairing P change)
    (hheld : ∀ opener ∈ held, P opener.event) (hevents : ∀ placed ∈ events, P placed.event) :
    heldAfter (held.map (Placed.mapEvent change)) (events.map (Placed.mapEvent change)) =
      (heldAfter held events).map (Placed.mapEvent change) := by
  induction events generalizing held with
  | nil => rfl
  | cons placed rest ih =>
    obtain ⟨hplaced, hrest⟩ := List.forall_mem_cons.mp hevents
    rw [List.map_cons, heldAfter, List.foldl_cons, keeps.advance_map hheld hplaced]
    exact ih (forall_mem_advance hheld hplaced) hrest

section Whole

variable {events : List Event}

/-- The pairs of changed events, none being open at the start. -/
theorem closingsFrom_place_map (keeps : KeepsPairing P change)
    (hevents : ∀ event ∈ events, P event) :
    closingsFrom [] (place (events.map change)) =
      (closingsFrom [] (place events)).map (Closing.mapEvent change) := by
  rw [place_map]
  exact keeps.closingsFrom_map (List.forall_mem_nil _) (forall_mem_place hevents)

/-- The markers that changed events leave open. -/
theorem stackAfter_map (keeps : KeepsPairing P change) (hevents : ∀ event ∈ events, P event) :
    stackAfter [] (events.map change) =
      (heldAfter [] (place events)).map fun placed => (placed.mapEvent change).marker := by
  have hheld := keeps.heldAfter_map (List.forall_mem_nil _) (forall_mem_place hevents)
  rw [List.map_nil, ← place_map] at hheld
  rw [stackAfter_eq_map_marker, hheld, List.map_map]
  rfl

end Whole

end KeepsPairing

end LineFold.Scan
