import LineFold.Proofs.Scan.Closing
import Mathlib.Data.List.Perm.Basic

/-! Documents with well-nested markers. Their events cancel: an opening event and a closing one of
the same rule right behind it are taken out, again and again, until only opening events are left.
What is taken out together is what a scan resolves together. A pair that is taken out leaves the
stack as it was, so the innermost marker is the partner of every closing event, and a scan that knows
neither recovery nor markers of other rules on one line gives the same ranges. -/
namespace LineFold.Scan
open Pattern (Line)

/-- Pairs are taken out of a word of events until `rest` is left. Each pair is an opening event and
a closing event of its rule right behind it. -/
inductive Cancels : List Placed → List Closing → List Placed → Prop
  | done {rest : List Placed} : Cancels rest [] rest
  | cancel {before after rest : List Placed} {opener closer : Placed} {pairs : List Closing}
      (opens : opener.event.kind = .opening) (closes : closer.event.kind = .closing)
      (same : opener.event.rule = closer.event.rule)
      (others : Cancels (before ++ after) pairs rest) :
      Cancels (before ++ opener :: closer :: after) (⟨opener, closer⟩ :: pairs) rest

/-- A step without recovery: a closing event resolves the innermost marker if that is of its rule,
and changes nothing otherwise, on whatever line that marker stands. -/
def plainStep (stack : Stack) (event : Event) : Stack × Option Range :=
  match event.kind, stack with
  | .opening, stack => (⟨event.rule, event.index, event.line⟩ :: stack, none)
  | .closing, marker :: below =>
    if marker.rule.index = event.rule.index then (below, rangeOf? marker event)
    else (marker :: below, none)
  | _, stack => (stack, none)

/-- The ranges that events give by steps without recovery. -/
def plainRangesFrom : Stack → List Event → List Range
  | _, [] => []
  | stack, event :: rest =>
    (plainStep stack event).2.toList ++ plainRangesFrom (plainStep stack event).1 rest

/-- No step of a run differs from the one without recovery. -/
def RunsPlainly : Stack → List Event → Prop
  | _, [] => True
  | stack, event :: rest =>
    plainStep stack event = step stack event ∧ RunsPlainly (step stack event).1 rest

variable {stack : Stack} {marker : Marker} {event : Event} {events : List Event}
  {word rest held : List Placed} {pairs : List Closing}

section Pairs

lemma closingsFrom_of_opening (opening : ∀ placed ∈ rest, placed.event.kind = .opening) :
    closingsFrom held rest = [] := by
  induction rest generalizing held with
  | nil => rfl
  | cons placed rest ih =>
    have hrest : closingsFrom (placed :: held) rest = [] :=
      ih fun other hother => opening other (List.mem_cons_of_mem _ hother)
    rw [closingsFrom, advance_opening (opening placed List.mem_cons_self), hrest]
    rfl

/-- A pair that cancels is resolved, and all others are those resolved without it. -/
lemma closingsFrom_cancel_perm {before after : List Placed} {opener closer : Placed}
    (opens : opener.event.kind = .opening) (closes : closer.event.kind = .closing)
    (same : opener.event.rule = closer.event.rule) (held : List Placed) :
    (closingsFrom held (before ++ opener :: closer :: after)).Perm
      (⟨opener, closer⟩ :: closingsFrom held (before ++ after)) := by
  have hpair (held : List Placed) :
      closingsFrom held (opener :: closer :: after) =
        ⟨opener, closer⟩ :: closingsFrom held after := by
    rw [closingsFrom, advance_opening opens, closingsFrom,
      advance_cons closes (congrArg Rule.index same)]
    rfl
  rw [closingsFrom_append, closingsFrom_append, hpair]
  exact List.perm_middle

theorem Cancels.closingsFrom_perm (h : Cancels word pairs rest)
    (opening : ∀ placed ∈ rest, placed.event.kind = .opening) :
    (closingsFrom held word).Perm pairs := by
  induction h with
  | done => rw [closingsFrom_of_opening opening]
  | cancel opens closes same _ ih =>
    exact (closingsFrom_cancel_perm opens closes same held).trans ((ih opening).cons _)

end Pairs

section Plain

lemma step_opening (opens : event.kind = .opening) :
    step stack event = (⟨event.rule, event.index, event.line⟩ :: stack, none) := by
  simp only [step, opens]

lemma plainStep_opening (opens : event.kind = .opening) :
    plainStep stack event = step stack event := by
  simp only [plainStep, step, opens]

lemma step_innermost (closes : event.kind = .closing)
    (same : marker.rule.index = event.rule.index) :
    step (marker :: stack) event = (stack, rangeOf? marker event) := by
  simp [step, closes, resolve?, same]

lemma plainStep_innermost (closes : event.kind = .closing)
    (same : marker.rule.index = event.rule.index) :
    plainStep (marker :: stack) event = step (marker :: stack) event := by
  rw [step_innermost closes same]
  simp only [plainStep, closes, same, if_true]

lemma runsPlainly_append (before after : List Event) :
    RunsPlainly stack (before ++ after) ↔
      RunsPlainly stack before ∧ RunsPlainly (stackAfter stack before) after := by
  induction before generalizing stack with
  | nil => exact (and_iff_right trivial).symm
  | cons event before ih =>
    rw [List.cons_append, RunsPlainly, RunsPlainly, ih, and_assoc]
    rfl

lemma runsPlainly_of_opening (opening : ∀ placed ∈ rest, placed.event.kind = .opening) :
    RunsPlainly stack (rest.map (·.event)) := by
  induction rest generalizing stack with
  | nil => trivial
  | cons placed rest ih =>
    exact ⟨plainStep_opening (opening placed List.mem_cons_self),
      ih fun other hother => opening other (List.mem_cons_of_mem _ hother)⟩

/-- A word that cancels to opening events never needs recovery: a closing event meets the marker that its
partner has just left. -/
theorem Cancels.runsPlainly (h : Cancels word pairs rest)
    (opening : ∀ placed ∈ rest, placed.event.kind = .opening) :
    RunsPlainly stack (word.map (·.event)) := by
  induction h with
  | done => exact runsPlainly_of_opening opening
  | @cancel before after rest opener closer pairs opens closes same _ ih =>
    have hothers := ih opening
    rw [List.map_append, runsPlainly_append] at hothers
    rw [List.map_append, List.map_cons, List.map_cons, runsPlainly_append]
    refine ⟨hothers.1, plainStep_opening opens, ?_⟩
    rw [step_opening opens]
    have hindex := congrArg Rule.index same
    refine ⟨plainStep_innermost closes hindex, ?_⟩
    rw [step_innermost closes hindex]
    exact hothers.2

lemma rangesFrom_of_runsPlainly (h : RunsPlainly stack events) :
    rangesFrom stack events = plainRangesFrom stack events := by
  induction events generalizing stack with
  | nil => rfl
  | cons event rest ih =>
    obtain ⟨hstep, hrest⟩ := h
    rw [rangesFrom, plainRangesFrom, hstep, ih hrest]

end Plain

lemma Cancels.rule_eq (h : Cancels word pairs rest) {closing : Closing} (hmem : closing ∈ pairs) :
    closing.opener.event.rule = closing.closer.event.rule := by
  induction h with
  | done => cases hmem
  | cancel _ _ same _ ih =>
    rcases List.mem_cons.mp hmem with rfl | hmem
    · exact same
    · exact ih hmem

/-- Where the events of a document cancel to opening ones, its ranges are those of the pairs taken
out that stand on different lines and that no skip marker vetoes, in the order of their closing
events; and recovery makes no difference. -/
theorem scan_of_cancels (rules : List Rule) (lines : List Line) (pairs : List Closing)
    (rest : List Placed) (cancels : Cancels (place (eventsFrom rules 0 lines)) pairs rest)
    (opening : ∀ placed ∈ rest, placed.event.kind = .opening) :
    (∃ folded : List Closing,
      (∀ closing, closing ∈ folded ↔ closing ∈ pairs ∧
        closing.opener.event.index ≠ closing.closer.event.index ∧
        Unmarked lines closing.opener.event.rule.skipOpening closing.opener.event.index ∧
        Unmarked lines closing.opener.event.rule.skipClosing closing.closer.event.index) ∧
      folded.Pairwise (fun a b => a.closer.position < b.closer.position) ∧
      scan rules lines = folded.map fun closing =>
        ⟨closing.opener.event.index + closing.opener.event.rule.topOffset,
          closing.closer.event.index - 1 + closing.opener.event.rule.bottomOffset⟩) ∧
    scan rules lines = plainRangesFrom [] (eventsFrom rules 0 lines) := by
  have hperm : (closings rules lines).Perm pairs := cancels.closingsFrom_perm opening
  constructor
  · refine ⟨(closings rules lines).filter Closing.folds, ?_, ?_, scan_eq_map_range rules lines⟩
    · intro closing
      rw [List.mem_filter, ← hperm.mem_iff]
      refine and_congr_right fun hmem => ?_
      rw [folds_iff hmem, cancels.rule_eq (hperm.mem_iff.mp hmem)]
    · have h := closings_pairwise (place_pairwise_position (eventsFrom rules 0 lines))
      exact (h.imp And.left).filter _
  · have hplain : RunsPlainly [] ((place (eventsFrom rules 0 lines)).map (·.event)) :=
      cancels.runsPlainly opening
    rw [map_event_place] at hplain
    exact rangesFrom_of_runsPlainly hplain

/-- Two regions, one within the other, that begin on one line, and one that is never closed. -/
def nestedLines : List Line := ["(<", ">", ")", "("].map Line.ofText

def nestedEvents : List Placed :=
  [⟨⟨0, Line.ofText "(<", .opening, bracketRule 0 '(' ')'⟩, 0⟩,
    ⟨⟨0, Line.ofText "(<", .opening, bracketRule 1 '<' '>'⟩, 1⟩,
    ⟨⟨1, Line.ofText ">", .closing, bracketRule 1 '<' '>'⟩, 2⟩,
    ⟨⟨2, Line.ofText ")", .closing, bracketRule 0 '(' ')'⟩, 3⟩,
    ⟨⟨3, Line.ofText "(", .opening, bracketRule 0 '(' ')'⟩, 4⟩]

lemma place_nestedLines :
    place (eventsFrom [bracketRule 0 '(' ')', bracketRule 1 '<' '>'] 0 nestedLines) =
      nestedEvents := by
  rfl

theorem scan_of_cancels_nested :
    ∃ (pairs : List Closing) (rest : List Placed),
      Cancels (place (eventsFrom [bracketRule 0 '(' ')', bracketRule 1 '<' '>'] 0 nestedLines))
        pairs rest ∧
      (∀ placed ∈ rest, placed.event.kind = .opening) ∧
      (∃ folded : List Closing,
        (∀ closing, closing ∈ folded ↔ closing ∈ pairs ∧
          closing.opener.event.index ≠ closing.closer.event.index ∧
          Unmarked nestedLines closing.opener.event.rule.skipOpening closing.opener.event.index ∧
          Unmarked nestedLines closing.opener.event.rule.skipClosing closing.closer.event.index) ∧
        folded.Pairwise (fun a b => a.closer.position < b.closer.position) ∧
        scan [bracketRule 0 '(' ')', bracketRule 1 '<' '>'] nestedLines =
          folded.map fun closing =>
            ⟨closing.opener.event.index + closing.opener.event.rule.topOffset,
              closing.closer.event.index - 1 + closing.opener.event.rule.bottomOffset⟩) ∧
      scan [bracketRule 0 '(' ')', bracketRule 1 '<' '>'] nestedLines =
        plainRangesFrom []
          (eventsFrom [bracketRule 0 '(' ')', bracketRule 1 '<' '>'] 0 nestedLines) := by
  have outer : Cancels ([nestedEvents[0]] ++ [nestedEvents[3], nestedEvents[4]])
      [⟨nestedEvents[0], nestedEvents[3]⟩] [nestedEvents[4]] :=
    @Cancels.cancel [] [nestedEvents[4]] _ _ _ _ rfl rfl rfl .done
  have cancels : Cancels
      (place (eventsFrom [bracketRule 0 '(' ')', bracketRule 1 '<' '>'] 0 nestedLines))
      [⟨nestedEvents[1], nestedEvents[2]⟩, ⟨nestedEvents[0], nestedEvents[3]⟩]
      [nestedEvents[4]] := by
    rw [place_nestedLines]
    exact @Cancels.cancel [nestedEvents[0]] [nestedEvents[3], nestedEvents[4]] _ _ _ _
      rfl rfl rfl outer
  have opening : ∀ placed ∈ [nestedEvents[4]], placed.event.kind = .opening := by
    simp [nestedEvents]
  exact ⟨_, _, cancels, opening, scan_of_cancels _ _ _ _ cancels opening⟩

example : scan [bracketRule 0 '(' ')', bracketRule 1 '<' '>'] nestedLines = [⟨0, 0⟩, ⟨0, 1⟩] := by
  decide

end LineFold.Scan
