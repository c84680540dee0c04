import LineFold.Range
import LineFold.Scan.Search

/-! Scanning a document. Every opening marker is put on a stack; a closing marker resolves the
innermost compatible one. A closing marker of another rule than the innermost one closes the
nearest open marker of its own rule and gives up everything opened after it. Markers on one
line never fold. -/
namespace LineFold.Scan
open Pattern (Line)

/-- An opening or closing marker and the line it stands on. -/
structure Event where
  index : Nat
  line : Line
  kind : Kind
  rule : Rule

/-- The events of one line: its markers before the first skip marker. -/
def lineEvents (rules : List Rule) (index : Nat) (line : Line) : List Event :=
  ((lineMatches rules line).takeWhile (·.kind ≠ .skipLine)).map fun found =>
    ⟨index, line, found.kind, found.rule⟩

/-- The events of lines that are numbered from `index`. -/
def eventsFrom (rules : List Rule) : Nat → List Line → List Event
  | _, [] => []
  | index, line :: rest => lineEvents rules index line ++ eventsFrom rules (index + 1) rest

/-- An opening marker that waits for its end. -/
structure Marker where
  rule : Rule
  index : Nat
  line : Line

/-- Open markers, the innermost one first. -/
abbrev Stack := List Marker

def matchesAnywhere (pattern : Option Pattern) (line : Line) : Bool :=
  match pattern with
  | none => false
  | some pattern => (pattern.search? line 0).isSome

/-- Whether a range from a marker to an event is vetoed by the rule of the event. -/
def isVetoed (marker : Marker) (event : Event) : Bool :=
  matchesAnywhere event.rule.skipOpening marker.line ||
    matchesAnywhere event.rule.skipClosing event.line

/-- The range that a closing event makes with a marker, if any. -/
def rangeOf? (marker : Marker) (event : Event) : Option Range :=
  if marker.index = event.index || isVetoed marker event then none
  else some ⟨marker.index + marker.rule.topOffset, event.index - 1 + marker.rule.bottomOffset⟩

/-- The marker that a closing event resolves and those below it. -/
def resolve? (event : Event) : Stack → Option (Marker × Stack)
  | [] => none
  | top :: below =>
    if top.index = event.index || top.rule.index = event.rule.index then some (top, below)
    else match below.dropWhile (·.rule.index ≠ event.rule.index) with
      | [] => none
      | marker :: below => some (marker, below)

/-- The stack after an event, and the range it gives. An end without an open marker of its rule
changes nothing. -/
def step (stack : Stack) (event : Event) : Stack × Option Range :=
  match event.kind with
  | .opening => (⟨event.rule, event.index, event.line⟩ :: stack, none)
  | .closing =>
    match resolve? event stack with
    | none => (stack, none)
    | some (marker, below) => (below, rangeOf? marker event)
  | .skipLine => (stack, none)

/-- The ranges that events give, starting with a stack of open markers. -/
def rangesFrom : Stack → List Event → List Range
  | _, [] => []
  | stack, event :: rest =>
    (step stack event).2.toList ++ rangesFrom (step stack event).1 rest

/-- The markers left open after events. -/
def stackAfter (stack : Stack) (events : List Event) : Stack :=
  events.foldl (fun stack event => (step stack event).1) stack

/-- The ranges of a document, in the order in which they are closed. -/
def scan (rules : List Rule) (lines : List Line) : List Range :=
  rangesFrom [] (eventsFrom rules 0 lines)

end LineFold.Scan
