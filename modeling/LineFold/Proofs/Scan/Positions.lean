import LineFold.Proofs.Scan.Stack

/-! A scan by positions. Here the stack is read at positions that are counted from the outermost marker,
markers keep the numbers of their lines only, and lines are read again from the document for a veto; a
read of what is not there is a fault. No run of it has a fault, and it gives the ranges of the scan. What
it rests on is the order of the stack: each marker stands on a line of the document that the run has
reached, and one that a search finds below the innermost marker stands on a line before the present
one. -/
namespace LineFold.Scan
open Pattern (Line)

namespace Positions

/-- A marker that is told by its rule and the number of its line. -/
structure Opened where
  rule : Rule
  index : Nat

/-- A read of what is not there. -/
inductive Fault where
  | noMarker (position : Nat)
  | noLine (index : Nat)

abbrev Reads := Except Fault

def markerAt (stack : List Opened) (position : Nat) : Reads Opened :=
  match stack[position]? with
  | some marker => .ok marker
  | none => .error (.noMarker position)

def lineAt (lines : List Line) (index : Nat) : Reads Line :=
  match lines[index]? with
  | some line => .ok line
  | none => .error (.noLine index)

/-- The highest position below `count` with a marker of the index of a rule. -/
def findOpen (stack : List Opened) (rule : Rule) : Nat → Reads (Option Nat)
  | 0 => return none
  | count + 1 => do
    let marker ← markerAt stack count
    if marker.rule.index = rule.index then return some count else findOpen stack rule count

/-- Whether a skip marker is on the line of a number. The line is read only where there is a marker. -/
def isSkipped (lines : List Line) (pattern : Option Pattern) (index : Nat) : Reads Bool :=
  match pattern with
  | none => return false
  | some pattern => return (pattern.search? (← lineAt lines index) 0).isSome

/-- Whether a rule vetoes a range between two lines. The second line is read only where the first one
has no veto. -/
def isVetoed (lines : List Line) (rule : Rule) (first last : Nat) : Reads Bool := do
  if ← isSkipped lines rule.skipOpening first then return true
  isSkipped lines rule.skipClosing last

/-- Takes the marker at a position off the stack with all above it, and gives its range, if any. -/
def takeOff (lines : List Line) (stack : List Opened) (rule : Rule) (index position : Nat) :
    Reads (List Opened × Option Range) := do
  let marker ← markerAt stack position
  let below := stack.take position
  if marker.index = index then return (below, none)
  if ← isVetoed lines rule marker.index index then return (below, none)
  return (below,
    some ⟨marker.index + marker.rule.topOffset, index - 1 + marker.rule.bottomOffset⟩)

/-- Resolves an end against a stack that is not empty. -/
def close (lines : List Line) (stack : List Opened) (rule : Rule) (index : Nat) :
    Reads (List Opened × Option Range) := do
  let top ← markerAt stack (stack.length - 1)
  if top.index ≠ index ∧ top.rule.index ≠ rule.index then
    match ← findOpen stack rule stack.length with
    | none => return (stack, none)
    | some position => takeOff lines stack rule index position
  else takeOff lines stack rule index (stack.length - 1)

/-- The stack after the matches of a line, up to its first skip marker, and the ranges they give. -/
def scanMatches (lines : List Line) (index : Nat) :
    List Match → List Opened → Reads (List Opened × List Range)
  | [], stack => return (stack, [])
  | found :: rest, stack =>
    match found.kind with
    | .skipLine => return (stack, [])
    | .opening => scanMatches lines index rest (stack ++ [⟨found.rule, index⟩])
    | .closing => do
      if stack.isEmpty then scanMatches lines index rest stack
      else
        let (stack, range) ← close lines stack found.rule index
        let (stack, ranges) ← scanMatches lines index rest stack
        return (stack, range.toList ++ ranges)

/-- The ranges of the lines of some numbers. -/
def scanLines (rules : List Rule) (lines : List Line) : List Nat → List Opened → Reads (List Range)
  | [], _ => return []
  | index :: rest, stack => do
    let line ← lineAt lines index
    let (stack, ranges) ← scanMatches lines index (lineMatches rules line) stack
    return ranges ++ (← scanLines rules lines rest stack)

/-- The ranges of a document. -/
def scan (rules : List Rule) (lines : List Line) : Reads (List Range) :=
  scanLines rules lines (List.range lines.length) []

end Positions

/-- A marker without its line. -/
def Marker.opened (marker : Marker) : Positions.Opened := ⟨marker.rule, marker.index⟩

/-- A stack from the outermost marker to the innermost one, without lines. -/
def Stack.opened (stack : Stack) : List Positions.Opened := stack.reverse.map Marker.opened

/-- Whether each marker of a stack carries the line of its number. -/
def Stack.Carries (lines : List Line) (stack : Stack) : Prop :=
  ∀ marker ∈ stack, lines[marker.index]? = some marker.line

namespace Positions

variable {lines : List Line} {stack above below : Stack} {marker : Marker} {event : Event} {rule : Rule}
  {index : Nat} {line : Line} {opened : List Opened}

section Reading

@[simp] lemma ok_bind {α β : Type} (value : α) (next : α → Reads β) :
    (Except.ok value >>= next) = next value :=
  rfl

lemma lineAt_of_some (h : lines[index]? = some line) : lineAt lines index = .ok line := by
  rw [lineAt, h]

lemma length_opened (stack : Stack) : stack.opened.length = stack.length := by
  rw [Stack.opened, List.length_map, List.length_reverse]

lemma opened_cons (marker : Marker) (below : Stack) :
    Stack.opened (marker :: below) = below.opened ++ [marker.opened] := by
  rw [Stack.opened, List.reverse_cons, List.map_append]
  rfl

lemma opened_append (above below : Stack) :
    Stack.opened (above ++ below) = below.opened ++ above.opened := by
  rw [Stack.opened, List.reverse_append, List.map_append]
  rfl

/-- A marker is read at the position that is the number of those below it. -/
lemma markerAt_opened (marker : Marker) (below : Stack) (above : List Opened) :
    markerAt (Stack.opened (marker :: below) ++ above) below.length = .ok marker.opened := by
  have hlength := length_opened below
  rw [opened_cons, markerAt, List.append_assoc, ← hlength]
  simp

lemma take_opened (marker : Marker) (below : Stack) (above : List Opened) :
    (Stack.opened (marker :: below) ++ above).take below.length = below.opened := by
  rw [opened_cons, List.append_assoc, ← length_opened below, List.take_left]

/-- A search looks at the innermost marker first, and then at those below it. -/
lemma findOpen_opened_cons (rule : Rule) (marker : Marker) (below : Stack) (above : List Opened) :
    findOpen (Stack.opened (marker :: below) ++ above) rule (below.length + 1) =
      if marker.rule.index = rule.index then .ok (some below.length)
      else findOpen (below.opened ++ marker.opened :: above) rule below.length := by
  rw [findOpen, markerAt_opened, opened_cons, List.append_assoc]
  rfl

lemma findOpen_of_absent (absent : ∀ marker ∈ stack, marker.rule.index ≠ rule.index)
    (above : List Opened) : findOpen (stack.opened ++ above) rule stack.length = .ok none := by
  induction stack generalizing above with
  | nil => rfl
  | cons marker below ih =>
    obtain ⟨hmarker, hbelow⟩ := List.forall_mem_cons.mp absent
    rw [List.length_cons, findOpen_opened_cons, if_neg hmarker]
    exact ih hbelow _

lemma findOpen_of_found {between : Stack} (found : marker.rule.index = rule.index)
    (absent : ∀ other ∈ between, other.rule.index ≠ rule.index) (below : Stack)
    (above : List Opened) :
    findOpen (Stack.opened (between ++ marker :: below) ++ above) rule
      (between ++ marker :: below).length = .ok (some below.length) := by
  induction between generalizing above with
  | nil => rw [List.nil_append, List.length_cons, findOpen_opened_cons, if_pos found]
  | cons other between ih =>
    obtain ⟨hother, hbetween⟩ := List.forall_mem_cons.mp absent
    rw [List.cons_append, List.length_cons, findOpen_opened_cons, if_neg hother]
    exact ih hbetween _

end Reading

section Closing

lemma isSkipped_eq (pattern : Option Pattern) (h : lines[index]? = some line) :
    isSkipped lines pattern index = .ok (matchesAnywhere pattern line) := by
  cases pattern with
  | none => rfl
  | some pattern =>
    rw [isSkipped, lineAt_of_some h]
    rfl

lemma isVetoed_eq (hopening : lines[marker.index]? = some marker.line)
    (hclosing : lines[event.index]? = some event.line) :
    isVetoed lines event.rule marker.index event.index = .ok (Scan.isVetoed marker event) := by
  rw [isVetoed, isSkipped_eq _ hopening, isSkipped_eq _ hclosing, Scan.isVetoed]
  cases matchesAnywhere event.rule.skipOpening marker.line <;> rfl

lemma takeOff_eq (hopening : lines[marker.index]? = some marker.line)
    (hclosing : lines[event.index]? = some event.line) (below : Stack) (above : List Opened) :
    takeOff lines (Stack.opened (marker :: below) ++ above) event.rule event.index below.length =
      .ok (below.opened, rangeOf? marker event) := by
  have hindex : marker.opened.index = marker.index := rfl
  rw [takeOff, markerAt_opened, ok_bind, take_opened, hindex, isVetoed_eq hopening hclosing, rangeOf?]
  simp only [ok_bind]
  by_cases here : marker.index = event.index
  · rw [if_pos here, if_pos (by simp [here])]
    rfl
  · cases Scan.isVetoed marker event with
    | true =>
      rw [if_neg here, if_pos rfl, if_pos (by simp)]
      rfl
    | false =>
      rw [if_neg here, if_neg (by decide), if_neg (by simpa using here)]
      rfl

lemma close_cons (lines : List Line) (top : Marker) (others : Stack) (rule : Rule) (index : Nat) :
    close lines (Stack.opened (top :: others)) rule index =
      if top.index ≠ index ∧ top.rule.index ≠ rule.index then do
        match ← findOpen (Stack.opened (top :: others)) rule (top :: others).length with
        | none => return (Stack.opened (top :: others), none)
        | some position => takeOff lines (Stack.opened (top :: others)) rule index position
      else takeOff lines (Stack.opened (top :: others)) rule index others.length := by
  have htop : markerAt (Stack.opened (top :: others)) others.length = .ok top.opened := by
    simpa using markerAt_opened top others []
  rw [close, length_opened, List.length_cons, Nat.add_sub_cancel, htop]
  rfl

lemma close_of_resolves (hresolves : Resolves event marker above)
    (hopening : lines[marker.index]? = some marker.line)
    (hclosing : lines[event.index]? = some event.line) (below : Stack) :
    close lines (Stack.opened (above ++ marker :: below)) event.rule event.index =
      .ok (below.opened, rangeOf? marker event) := by
  cases above with
  | nil =>
    have innermost : ¬ (marker.index ≠ event.index ∧ marker.rule.index ≠ event.rule.index) :=
      fun h => hresolves.elim h.1 h.2
    have htake := takeOff_eq hopening hclosing below []
    rw [List.append_nil] at htake
    rw [List.nil_append, close_cons, if_neg innermost]
    exact htake
  | cons top between =>
    obtain ⟨hline, hrule, hothers⟩ := hresolves
    have hfind := findOpen_of_found hrule hothers below []
    have htake := takeOff_eq hopening hclosing below (Stack.opened (top :: between))
    rw [List.append_nil] at hfind
    rw [← opened_append] at htake
    rw [List.cons_append] at hfind htake ⊢
    rw [close_cons, if_pos ⟨hline, hothers top List.mem_cons_self⟩, hfind]
    exact htake

lemma close_of_absent (nonempty : stack ≠ []) (habsent : Absent event stack) :
    close lines stack.opened event.rule event.index = .ok (stack.opened, none) := by
  obtain ⟨top, others, rfl⟩ := List.exists_cons_of_ne_nil nonempty
  have hfind := findOpen_of_absent habsent.2 []
  rw [List.append_nil] at hfind
  rw [close_cons, if_pos ⟨habsent.1 top rfl, habsent.2 top List.mem_cons_self⟩, hfind]
  rfl

/-- An end is resolved without a fault, and as in a step. -/
lemma close_eq (event : Event) (nonempty : stack ≠ []) (closes : event.kind = .closing)
    (carries : stack.Carries lines) (hclosing : lines[event.index]? = some event.line) :
    close lines stack.opened event.rule event.index =
      .ok ((step stack event).1.opened, (step stack event).2) := by
  rcases exists_resolves_or_absent event stack with ⟨above, marker, below, rfl, hresolves⟩ | habsent
  · have hopening := carries marker (List.mem_append_right above List.mem_cons_self)
    rw [step_of_resolves closes hresolves]
    exact close_of_resolves hresolves hopening hclosing below
  · rw [step_of_absent closes habsent]
    exact close_of_absent nonempty habsent

end Closing

section Run

lemma mem_of_mem_step (h : marker ∈ (step stack event).1) :
    marker ∈ stack ∨ marker = event.marker := by
  have hmem := (step_sublist stack event).subset (List.mem_reverse.mpr h)
  rcases List.mem_append.mp hmem with hmem | hmem
  · exact Or.inl (List.mem_reverse.mp hmem)
  · obtain ⟨other, hother, rfl⟩ := mem_openings hmem
    rw [List.mem_singleton.mp hother]
    exact Or.inr rfl

lemma carries_step (carries : stack.Carries lines) (hline : lines[event.index]? = some event.line) :
    (step stack event).1.Carries lines := by
  intro marker hmarker
  rcases mem_of_mem_step hmarker with hmarker | rfl
  · exact carries marker hmarker
  · exact hline

lemma carries_stackAfter {events : List Event}
    (carries : stack.Carries lines)
    (hlines : ∀ event ∈ events, lines[event.index]? = some event.line) :
    (stackAfter stack events).Carries lines := by
  induction events generalizing stack with
  | nil => exact carries
  | cons event rest ih =>
    obtain ⟨hline, hrest⟩ := List.forall_mem_cons.mp hlines
    exact ih (carries_step carries hline) hrest

/-- The events of matches, up to the first skip marker. -/
def eventsOf (index : Nat) (line : Line) (matched : List Match) : List Event :=
  (matched.takeWhile (·.kind ≠ .skipLine)).map fun found => ⟨index, line, found.kind, found.rule⟩

lemma eventsOf_cons {found : Match} (marks : found.kind ≠ .skipLine) (rest : List Match) :
    eventsOf index line (found :: rest) =
      ⟨index, line, found.kind, found.rule⟩ :: eventsOf index line rest := by
  rw [eventsOf, List.takeWhile_cons, if_pos (by simpa using marks)]
  rfl

lemma eventsOf_skipLine {found : Match} (skips : found.kind = .skipLine) (rest : List Match) :
    eventsOf index line (found :: rest) = [] := by
  rw [eventsOf, List.takeWhile_cons, if_neg (by simp [skips]), List.map_nil]

/-- A match that skips nothing is handled without a fault, and as in a step. -/
lemma scanMatches_cons {found : Match} (marks : found.kind ≠ .skipLine) (rest : List Match)
    (hevent : event = ⟨index, line, found.kind, found.rule⟩) (hline : lines[index]? = some line)
    (carries : stack.Carries lines) :
    scanMatches lines index (found :: rest) stack.opened = (do
      let (after, ranges) ← scanMatches lines index rest (step stack event).1.opened
      return (after, (step stack event).2.toList ++ ranges)) := by
  subst hevent
  cases hkind : found.kind with
  | skipLine => exact absurd hkind marks
  | opening =>
    have hstep : step stack ⟨index, line, .opening, found.rule⟩ =
        (⟨found.rule, index, line⟩ :: stack, none) := rfl
    rw [hstep, opened_cons]
    simp only [scanMatches, hkind]
    exact (bind_pure _).symm
  | closing =>
    simp only [scanMatches, hkind]
    by_cases hempty : stack = []
    · rw [hempty]
      exact (bind_pure _).symm
    · have hclose := close_eq ⟨index, line, .closing, found.rule⟩ hempty rfl carries hline
      have hopened : stack.opened.isEmpty = false := by
        rw [List.isEmpty_eq_false_iff, ← List.length_pos_iff, length_opened, List.length_pos_iff]
        exact hempty
      rw [hopened, if_neg (by decide), hclose]
      rfl

/-- The matches of a line are gone through without a fault, and as in steps. -/
lemma scanMatches_eq (matched : List Match) (hline : lines[index]? = some line)
    (carries : stack.Carries lines) :
    scanMatches lines index matched stack.opened =
      .ok ((stackAfter stack (eventsOf index line matched)).opened,
        rangesFrom stack (eventsOf index line matched)) := by
  induction matched generalizing stack with
  | nil => rfl
  | cons found rest ih =>
    by_cases skips : found.kind = .skipLine
    · rw [eventsOf_skipLine skips]
      simp only [scanMatches, skips]
      rfl
    · rw [eventsOf_cons skips, scanMatches_cons skips rest rfl hline carries]
      rw [ih (carries_step carries hline)]
      rfl

/-- A line is gone through without a fault, and as in steps. -/
lemma scanMatches_lineMatches (rules : List Rule) (hline : lines[index]? = some line)
    (carries : stack.Carries lines) :
    scanMatches lines index (lineMatches rules line) stack.opened =
      .ok ((stackAfter stack (lineEvents rules index line)).opened,
        rangesFrom stack (lineEvents rules index line)) :=
  scanMatches_eq (lineMatches rules line) hline carries

lemma carries_lineEvents (rules : List Rule) (hline : lines[index]? = some line)
    (carries : stack.Carries lines) :
    (stackAfter stack (lineEvents rules index line)).Carries lines := by
  refine carries_stackAfter carries ?_
  intro event hevent
  obtain ⟨found, -, rfl⟩ := List.mem_map.mp hevent
  exact hline

/-- The lines from a number on are gone through without a fault, and as in steps. -/
lemma scanLines_eq (rules : List Rule) (earlier later : List Line) (stack : Stack)
    (carries : stack.Carries (earlier ++ later)) :
    scanLines rules (earlier ++ later) (List.range' earlier.length later.length) stack.opened =
      .ok (rangesFrom stack (eventsFrom rules earlier.length later)) := by
  induction later generalizing earlier stack with
  | nil => rfl
  | cons line later ih =>
    have hline : (earlier ++ line :: later)[earlier.length]? = some line := by simp
    have hlines : earlier ++ line :: later = (earlier ++ [line]) ++ later := by simp
    have hnumber : (earlier ++ [line]).length = earlier.length + 1 := by simp
    have hcarries := carries_lineEvents rules hline carries
    rw [hlines] at hcarries
    have hrest := ih (earlier ++ [line]) _ hcarries
    rw [← hlines, hnumber] at hrest
    rw [List.length_cons, List.range'_succ, scanLines, lineAt_of_some hline, ok_bind,
      scanMatches_lineMatches rules hline carries, ok_bind]
    simp only [hrest, ok_bind]
    rw [eventsFrom, rangesFrom_append]
    rfl

/-- The scan by positions has no fault on any document, and gives the ranges of the scan. -/
lemma scan_eq (rules : List Rule) (lines : List Line) :
    scan rules lines = .ok (LineFold.Scan.scan rules lines) := by
  have h := scanLines_eq rules [] lines [] (by simp [Stack.Carries])
  rw [List.length_nil, List.nil_append, ← List.range_eq_range'] at h
  exact h

end Run

end Positions

namespace Point

variable {rules : List Rule} {lines : List Line}

/-- What holds of the stack at a point of a run. -/
structure InOrder (point : Point rules lines) : Prop where
  /-- From the outermost marker to the innermost one, the stack holds some of the opening events that
  were passed, in their order. -/
  opened : point.stack.reverse.Sublist (openings point.processed)
  increasing : point.stack.Pairwise fun inner outer => outer.index ≤ inner.index
  reached : ∀ marker ∈ point.stack,
    marker.index ≤ point.index ∧ lines[marker.index]? = some marker.line
  own_on_top : ∃ own outer, point.stack = own ++ outer ∧
    (∀ marker ∈ own, marker.index = point.index) ∧ ∀ marker ∈ outer, marker.index < point.index
  /-- Where the next event has to be searched for below the innermost marker, what is found is on an
  earlier line. -/
  searched_earlier : ∀ event ∈ point.pending.head?, ∀ top ∈ point.stack.head?,
    top.index ≠ event.index → top.rule.index ≠ event.rule.index →
      ∀ marker below, resolve? event point.stack = some (marker, below) → marker.index < point.index

lemma inOrder (point : Point rules lines) : point.InOrder where
  opened := point.stack_sublist
  increasing := point.stack_pairwise
  reached _ h := ⟨index_le_of_mem_stack h, line_of_mem_stack h⟩
  own_on_top := exists_split_at_line point.stack_pairwise fun _ => index_le_of_mem_stack
  searched_earlier _ hevent _ htop other _ _ _ found :=
    index_lt_of_resolve? (index_of_mem_pending (List.mem_of_mem_head? hevent)) htop other found

end Point

/-- At every point of every run the stack is in order, and so no read that a run makes of the stack or of
the document, by position, is out of range: read in this way, the scan has no fault and gives the same
ranges. -/
theorem stack_in_order (rules : List Rule) (lines : List Line) :
    (∀ point : Point rules lines, point.InOrder) ∧
      Positions.scan rules lines = .ok (scan rules lines) :=
  ⟨Point.inOrder, Positions.scan_eq rules lines⟩

/-- An end that is searched for below an innermost marker of another rule and another line. -/
example : (Positions.scan [bracketRule 0 '(' ')', bracketRule 1 '<' '>']
    (["(", "<", "x", ")"].map Line.ofText)).toOption = some [⟨0, 2⟩] := by
  decide

end LineFold.Scan
