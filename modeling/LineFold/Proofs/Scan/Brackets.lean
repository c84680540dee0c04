import LineFold.Proofs.Scan.Closing

/-! With one rule, scanning matches brackets. The partner of a closing event is the opening event
before it with a balanced word of events between the two, and the ranges are those of all partners
on different lines that no skip marker vetoes. The stack is tied to the words: what was read since
the innermost open event is balanced, and so is what was read between one open event and the next.
Closing events without a partner and opening events that are never closed may stand anywhere. -/
namespace LineFold.Scan
open Pattern (Line)

/-- Words of events in which every opening event has its closing one. -/
inductive Balanced : List Placed → Prop
  | nil : Balanced []
  | fold {opener closer : Placed} {inner rest : List Placed}
      (opens : opener.event.kind = .opening) (inside : Balanced inner)
      (closes : closer.event.kind = .closing) (after : Balanced rest) :
      Balanced (opener :: inner ++ closer :: rest)

/-- An opening event and a later closing one with a balanced word between them. -/
def Partners (events : List Placed) (opener closer : Placed) : Prop :=
  ∃ before inner after, events = before ++ opener :: inner ++ closer :: after ∧
    opener.event.kind = .opening ∧ Balanced inner ∧ closer.event.kind = .closing

variable {held done rest events : List Placed} {placed opener closer : Placed} {closing : Closing}

lemma Balanced.append (h : Balanced events) (hrest : Balanced rest) :
    Balanced (events ++ rest) := by
  induction h with
  | nil => exact hrest
  | fold opens inside closes _ _ ih =>
    rw [List.append_assoc, List.cons_append]
    exact .fold opens inside closes ih

/-- A balanced word leaves what is held as it was. -/
lemma Balanced.heldAfter_eq (h : Balanced events)
    (alike : ∀ a ∈ events, ∀ b ∈ events, a.event.rule.index = b.event.rule.index)
    (held : List Placed) :
    heldAfter held events = held := by
  induction h generalizing held with
  | nil => rfl
  | @fold opener closer inner rest opens _ closes _ ihInner ihRest =>
    have hinner : heldAfter (opener :: held) inner = opener :: held :=
      ihInner (fun a ha b hb => alike a (by simp [ha]) b (by simp [hb])) _
    have hsame : opener.event.rule.index = closer.event.rule.index :=
      alike opener (by simp) closer (by simp)
    calc heldAfter held (opener :: inner ++ closer :: rest)
        = heldAfter (heldAfter (advance held opener).1 inner) (closer :: rest) :=
          heldAfter_append held (opener :: inner) (closer :: rest)
      _ = heldAfter (advance (opener :: held) closer).1 rest := by
          rw [advance_opening opens, hinner]
          rfl
      _ = heldAfter held rest := by rw [advance_cons closes hsame]
      _ = held := ihRest (fun a ha b hb => alike a (by simp [ha]) b (by simp [hb])) held

/-- Partners are resolved together. -/
theorem Partners.mem_closingsFrom (h : Partners events opener closer)
    (alike : ∀ a ∈ events, ∀ b ∈ events, a.event.rule.index = b.event.rule.index)
    (held : List Placed) :
    ⟨opener, closer⟩ ∈ closingsFrom held events := by
  obtain ⟨before, inner, after, rfl, opens, inside, closes⟩ := h
  have hsame : opener.event.rule.index = closer.event.rule.index :=
    alike opener (by simp) closer (by simp)
  have hheld : heldAfter held (before ++ opener :: inner) = opener :: heldAfter held before := by
    rw [heldAfter_append]
    change heldAfter (advance (heldAfter held before) opener).1 inner = _
    rw [advance_opening opens]
    exact inside.heldAfter_eq (fun a ha b hb => alike a (by simp [ha]) b (by simp [hb])) _
  rw [closingsFrom_append, hheld, closingsFrom, advance_cons closes hsame]
  exact List.mem_append_right _ List.mem_cons_self

/-- The events read so far and the open ones among them, the innermost first. Between one open event
and the next, and behind the innermost one, every word is balanced. -/
inductive Awaits : List Placed → List Placed → Prop
  | none {done : List Placed} : Awaits done []
  | opened {done held inner : List Placed} {opener : Placed} (below : Awaits done held)
      (opens : opener.event.kind = .opening) (inside : Balanced inner) :
      Awaits (done ++ opener :: inner) (opener :: held)

lemma Awaits.append (h : Awaits done held) (hrest : Balanced rest) :
    Awaits (done ++ rest) held := by
  cases h with
  | none => exact .none
  | opened below opens inside =>
    rw [List.append_assoc, List.cons_append]
    exact .opened below opens (inside.append hrest)

/-- What is resolved together are partners. The word between them is closed in itself, and joins the word
before it where it is passed over. -/
theorem partners_of_mem_closingsFrom (awaits : Awaits done held)
    (alike : ∀ a ∈ done ++ rest, ∀ b ∈ done ++ rest, a.event.rule.index = b.event.rule.index)
    (plain : ∀ placed ∈ rest, placed.event.kind = .opening ∨ placed.event.kind = .closing)
    (h : closing ∈ closingsFrom held rest) :
    Partners (done ++ rest) closing.opener closing.closer := by
  induction rest generalizing done held with
  | nil => cases h
  | cons placed rest ih =>
    have later {held : List Placed} (awaits : Awaits (done ++ [placed]) held)
        (h : closing ∈ closingsFrom held rest) :
        Partners (done ++ placed :: rest) closing.opener closing.closer := by
      have hp := ih awaits (by simpa using alike)
        (fun placed h => plain placed (List.mem_cons_of_mem _ h)) h
      rwa [List.append_assoc] at hp
    rw [closingsFrom] at h
    rcases plain placed List.mem_cons_self with opens | closes
    · rw [advance_opening opens] at h
      exact later (.opened awaits opens .nil) h
    · cases awaits with
      | none =>
        rw [advance_nil closes] at h
        exact later .none h
      | @opened done held inner top below opens inside =>
        have hsame : top.event.rule.index = placed.event.rule.index :=
          alike top (by simp) placed (by simp)
        rw [advance_cons closes hsame] at h
        rcases List.mem_cons.mp h with rfl | h
        · exact ⟨done, inner, rest, rfl, opens, inside, closes⟩
        · refine later ?_ h
          rw [List.append_assoc]
          exact below.append (.fold opens inside closes .nil)

lemma rule_eq_of_mem_place {rule : Rule} {lines : List Line}
    (h : placed ∈ place (eventsFrom [rule] 0 lines)) : placed.event.rule = rule :=
  List.mem_singleton.mp (belongs_of_mem_place h).rule_mem

lemma mem_closings_singleton_iff (rule : Rule) (lines : List Line) (closing : Closing) :
    closing ∈ closings [rule] lines ↔
      Partners (place (eventsFrom [rule] 0 lines)) closing.opener closing.closer := by
  have alike : ∀ a ∈ place (eventsFrom [rule] 0 lines), ∀ b ∈ place (eventsFrom [rule] 0 lines),
      a.event.rule.index = b.event.rule.index := by
    intro a ha b hb
    rw [rule_eq_of_mem_place ha, rule_eq_of_mem_place hb]
  constructor
  · intro h
    have start : Awaits [] [] := .none
    exact partners_of_mem_closingsFrom start alike
      (fun placed h => (belongs_of_mem_place h).kind_eq) h
  · intro h
    exact h.mem_closingsFrom alike []

/-- With one rule the ranges of a document are those of the partners on different lines that no skip
marker vetoes, one range for each of their closing events and in the order of these. -/
theorem scan_single_rule (rule : Rule) (lines : List Line) :
    ∃ pairs : List Closing,
      (∀ closing, closing ∈ pairs ↔
        Partners (place (eventsFrom [rule] 0 lines)) closing.opener closing.closer ∧
          closing.opener.event.index ≠ closing.closer.event.index ∧
          Unmarked lines rule.skipOpening closing.opener.event.index ∧
          Unmarked lines rule.skipClosing closing.closer.event.index) ∧
      pairs.Pairwise (fun a b => a.closer.position < b.closer.position) ∧
      scan [rule] lines = pairs.map fun closing =>
        ⟨closing.opener.event.index + rule.topOffset,
          closing.closer.event.index - 1 + rule.bottomOffset⟩ := by
  refine ⟨(closings [rule] lines).filter Closing.folds, ?_, ?_, ?_⟩
  · intro closing
    rw [List.mem_filter, ← mem_closings_singleton_iff]
    refine and_congr_right fun h => ?_
    rw [folds_iff h, rule_eq_of_mem_place (mem_closings h).2.2.1]
  · have h := closings_pairwise (place_pairwise_position (eventsFrom [rule] 0 lines))
    exact (h.imp And.left).filter _
  · rw [scan_eq_map_range]
    refine List.map_congr_left fun closing h => ?_
    rw [Closing.range, rule_eq_of_mem_place (mem_closings (List.mem_filter.mp h).1).1]

/-- A closing marker without a partner, a pair on one line and one that is never closed. -/
example : scan [bracketRule 0 '(' ')'] ([")", "((", ")", "()", ")", "("].map Line.ofText) =
    [⟨1, 1⟩, ⟨1, 3⟩] := by
  decide

end LineFold.Scan
