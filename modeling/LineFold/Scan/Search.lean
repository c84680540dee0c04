import LineFold.Rule

/-! Markers on one line. A search gives the marker that starts earliest; of several at one
column the one declared first wins. Walking along a line, each alternative keeps what its last
search found, and is searched again only once the walk has passed that. -/
namespace LineFold.Scan
open Pattern (Line Span)

inductive Kind where
  | opening
  | closing
  | skipLine
  deriving DecidableEq

structure Alternative where
  kind : Kind
  rule : Rule
  pattern : Pattern

/-- What may be found on a line: for each rule its opening, closing and skip marker. -/
def alternatives (rules : List Rule) : List Alternative :=
  rules.flatMap fun rule =>
    [⟨.opening, rule, rule.opening⟩, ⟨.closing, rule, rule.closing⟩] ++
      (rule.skipLine.map fun pattern => ⟨.skipLine, rule, pattern⟩).toList

structure Match where
  kind : Kind
  rule : Rule
  span : Span

/-- Whether a span starts before the best match so far. -/
def improves (best : Option Match) (span : Span) : Bool :=
  match best with
  | none => true
  | some found => span.start < found.span.start

/-- The best match of the alternatives from `position` on, given the best one so far. At the
position itself nothing can be better, and later alternatives lose ties. -/
def searchFrom (line : Line) (position : Int) :
    List Alternative → Option Match → Option Match
  | [], best => best
  | alternative :: rest, best =>
    match alternative.pattern.search? line position with
    | none => searchFrom line position rest best
    | some span =>
      if improves best span then
        let found := some ⟨alternative.kind, alternative.rule, span⟩
        if (span.start : Int) = position then found else searchFrom line position rest found
      else searchFrom line position rest best

def search (rules : List Rule) (line : Line) (position : Int) : Option Match :=
  searchFrom line position (alternatives rules) none

/-- What is known of an alternative on a line. -/
inductive Slot where
  | unsearched
  | missed
  | found (span : Span)
  deriving DecidableEq

def Slot.ofSearch : Option Span → Slot
  | none => missed
  | some span => found span

def Slot.span? : Slot → Option Span
  | found span => some span
  | _ => none

/-- Whether a slot says nothing about a search from `position`. A miss is never searched again. -/
def Slot.isStale (position : Int) : Slot → Bool
  | unsearched => true
  | missed => false
  | found span => span.start < position

def Slot.refresh (pattern : Pattern) (line : Line) (position : Int) (slot : Slot) : Slot :=
  if slot.isStale position then .ofSearch (pattern.search? line position) else slot

abbrev Cache := List Slot

def newCache (rules : List Rule) : Cache := List.replicate (alternatives rules).length .unsearched

/-- A search that reads and updates the slots of the alternatives. -/
def cachedSearchFrom (line : Line) (position : Int) :
    List Alternative → Cache → Option Match → Option Match × Cache
  | alternative :: rest, slot :: slots, best =>
    let slot := slot.refresh alternative.pattern line position
    match slot.span? with
    | none =>
      let (result, slots) := cachedSearchFrom line position rest slots best
      (result, slot :: slots)
    | some span =>
      if improves best span then
        let found := some ⟨alternative.kind, alternative.rule, span⟩
        if (span.start : Int) = position then (found, slot :: slots)
        else
          let (result, slots) := cachedSearchFrom line position rest slots found
          (result, slot :: slots)
      else
        let (result, slots) := cachedSearchFrom line position rest slots best
        (result, slot :: slots)
  | _, slots, best => (best, slots)

def cachedSearch (rules : List Rule) (line : Line) (position : Int) (cache : Cache) :
    Option Match × Cache :=
  cachedSearchFrom line position (alternatives rules) cache none

/-- Where a walk goes on behind a match: past the matched text, and past one column at least. -/
def nextColumn (span : Span) : Nat := span.start + max (span.stop - span.start) 1

/-- The matches from `column` on. Every step passes a column, so the fuel is the number of
columns that a match may start at. -/
def matchesFrom (alternatives : List Alternative) (line : Line) :
    Nat → Nat → Cache → List Match
  | 0, _, _ => []
  | fuel + 1, column, cache =>
    if line.size < column then []
    else match cachedSearchFrom line column alternatives cache none with
      | (none, _) => []
      | (some found, cache) =>
        found :: matchesFrom alternatives line fuel (nextColumn found.span) cache

/-- The markers on a line, from left to right. -/
def lineMatches (rules : List Rule) (line : Line) : List Match :=
  matchesFrom (alternatives rules) line (line.size + 1) 0 (newCache rules)

end LineFold.Scan
