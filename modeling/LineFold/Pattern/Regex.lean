import LineFold.Pattern.CharTest

/-! Backtracking match of a compiled pattern on one line. A match tries its choices in order
and hands what it reached to a continuation; the first choice whose continuation succeeds wins.
Whether and how far a pattern matches at a column does not depend on where the search began. -/
namespace LineFold.Pattern

inductive Spot where
  | textStart
  | textEnd
  | lastLineEnd
  | lineStart
  | lineEnd
  | boundary (ascii : Bool)
  | nonBoundary (ascii : Bool)
  deriving DecidableEq

inductive Regex where
  | empty
  | char (test : CharTest)
  | spot (spot : Spot)
  | seq (first second : Regex)
  | alt (first second : Regex)
  | capture (index : Nat) (body : Regex)
  | atomic (body : Regex)
  | chars (greed : Greed) (min : Nat) (max : Option Nat) (test : CharTest)
  | loop (greed : Greed) (min : Nat) (max : Option Nat) (body : Regex)
  | backref (fold : Fold) (index : Nat)
  | ifGroup (index : Nat) (yes no : Regex)
  | ahead (negated : Bool) (body : Regex)
  | behind (negated : Bool) (width : Nat) (body : Regex)

/-- Where a group last began and ended; the two may come from different rounds of a loop. -/
structure Mark where
  start : Option Nat := none
  stop : Option Nat := none

/-- What a match has reached: a column and the marks of all groups. -/
structure Progress where
  column : Nat
  marks : Array Mark

namespace Progress

def advance (p : Progress) (count : Nat) : Progress := { p with column := p.column + count }

def openGroup (p : Progress) (index : Nat) : Progress :=
  { p with marks := p.marks.modify (index - 1) fun mark => { mark with start := some p.column } }

def closeGroup (p : Progress) (index : Nat) : Progress :=
  { p with marks := p.marks.modify (index - 1) fun mark => { mark with stop := some p.column } }

/-- The columns between which a group matched. -/
def span? (p : Progress) (index : Nat) : Option (Nat × Nat) :=
  match p.marks[index - 1]? with
  | some ⟨some start, some stop⟩ => if start ≤ stop then some (start, stop) else none
  | _ => none

end Progress

abbrev Line := Array Char

def Line.ofText (text : String) : Line := text.toList.toArray

def charAt? (line : Line) (column : Nat) : Option Char := getElem? line column

def isWordAt (ascii : Bool) (line : Line) (column : Nat) : Bool :=
  match charAt? line column with
  | some c => isWordCode ascii c.toNat
  | none => false

/-- Whether a word begins or ends at a column. -/
def isBoundary (ascii : Bool) (line : Line) (column : Nat) : Bool :=
  (0 < column && isWordAt ascii line (column - 1)) != isWordAt ascii line column

def Spot.holds (spot : Spot) (line : Line) (column : Nat) : Bool :=
  match spot with
  | textStart => column == 0
  | textEnd => column == line.size
  | lastLineEnd =>
    column == line.size || (column + 1 == line.size && charAt? line column == some '\n')
  | lineStart => column == 0 || charAt? line (column - 1) == some '\n'
  | lineEnd => column == line.size || charAt? line column == some '\n'
  | boundary ascii => isBoundary ascii line column
  | nonBoundary ascii => line.size != 0 && !isBoundary ascii line column

def CharTest.acceptsAt (test : CharTest) (line : Line) (column : Nat) : Bool :=
  match charAt? line column with
  | some c => test.accepts c
  | none => false

/-- How many of the next `limit` characters pass the test before the first that does not. -/
def CharTest.stretch (test : CharTest) (line : Line) (column : Nat) : Nat → Nat
  | 0 => 0
  | limit + 1 => if test.acceptsAt line column then test.stretch line (column + 1) limit + 1 else 0

/-- Whether `count` characters from one column on equal those from another, under `fold`. -/
def sameChars (fold : Fold) (line : Line) (from1 from2 : Nat) : Nat → Bool
  | 0 => true
  | count + 1 =>
    match charAt? line from1, charAt? line from2 with
    | some a, some b =>
      fold.lower a.toNat == fold.lower b.toNat && sameChars fold line (from1 + 1) (from2 + 1) count
    | _, _ => false

/-- Counts between `min` and `min + extra` in the order in which they are tried. -/
def Greed.counts (greed : Greed) (min extra : Nat) : List Nat :=
  match greed with
  | greedy => (List.range' min (extra + 1)).reverse
  | lazy => List.range' min (extra + 1)
  | possessive => [min + extra]

abbrev Continuation := Progress → Option Progress

/-- Exactly `count` rounds of a loop. -/
def rounds (body : Progress → Continuation → Option Progress) :
    Nat → Progress → Continuation → Option Progress
  | 0, p, k => k p
  | count + 1, p, k => body p fun q => rounds body count q k

/-- Further rounds of a loop, `left` of them at most. A round that would start where the last
one started is not tried, so the fuel, which covers each column once, does not run out. -/
def furtherRounds (body : Progress → Continuation → Option Progress) (isLazy : Bool) :
    Nat → Option Nat → Option Nat → Progress → Continuation → Option Progress
  | 0, _, _, p, k => k p
  | fuel + 1, left, last, p, k =>
    if left = some 0 ∨ last = some p.column then k p
    else
      let again (_ : Unit) :=
        body p fun q => furtherRounds body isLazy fuel (left.map (· - 1)) (some p.column) q k
      if isLazy then (k p).orElse again else (again ()).orElse fun _ => k p

/-- Further rounds of a possessive loop: each is settled before the next one begins. -/
def settledRounds (body : Progress → Option Progress) :
    Nat → Option Nat → Option Nat → Progress → Progress
  | 0, _, _, p => p
  | fuel + 1, left, last, p =>
    if left = some 0 ∨ last = some p.column then p
    else match body p with
      | none => p
      | some q => settledRounds body fuel (left.map (· - 1)) (some p.column) q

/-- A loop as a whole: the rounds it needs, then as many more as `greed` asks for. -/
def runLoop (line : Line) (greed : Greed) (min : Nat) (max : Option Nat)
    (body : Progress → Continuation → Option Progress) (p : Progress) (k : Continuation) :
    Option Progress :=
  let left := max.map (· - min)
  let fuel := line.size + 2
  match greed with
  | .greedy => rounds body min p fun q => furtherRounds body false fuel left none q k
  | .lazy => rounds body min p fun q => furtherRounds body true fuel left none q k
  | .possessive =>
    let settle q := body q some
    match rounds (fun q next => (settle q).bind next) min p some with
    | none => none
    | some q => k (settledRounds settle fuel left none q)

/-- A loop of single characters. -/
def runChars (line : Line) (greed : Greed) (min : Nat) (max : Option Nat) (test : CharTest)
    (p : Progress) (k : Continuation) : Option Progress :=
  let available := line.size - p.column
  let limit := match max with
    | some most => Nat.min most available
    | none => available
  let reached := test.stretch line p.column limit
  if reached < min then none
  else (greed.counts min (reached - min)).findSome? fun count => k (p.advance count)

def Regex.run (line : Line) : Regex → Progress → Continuation → Option Progress
  | empty, p, k => k p
  | char test, p, k => if test.acceptsAt line p.column then k (p.advance 1) else none
  | spot place, p, k => if place.holds line p.column then k p else none
  | seq first second, p, k => first.run line p fun q => second.run line q k
  | alt first second, p, k => (first.run line p k).orElse fun _ => second.run line p k
  | capture index body, p, k =>
    body.run line (p.openGroup index) fun q => k (q.closeGroup index)
  | atomic body, p, k => (body.run line p some).bind k
  | chars greed min max test, p, k => runChars line greed min max test p k
  | loop greed min max body, p, k =>
    runLoop line greed min max (fun q next => body.run line q next) p k
  | backref fold index, p, k =>
    match p.span? index with
    | none => none
    | some (start, stop) =>
      if sameChars fold line start p.column (stop - start) then k (p.advance (stop - start))
      else none
  | ifGroup index yes no, p, k =>
    if (p.span? index).isSome then yes.run line p k else no.run line p k
  | ahead negated body, p, k =>
    match body.run line p some, negated with
    | some q, false => k { q with column := p.column }
    | none, true => k p
    | _, _ => none
  | behind negated width body, p, k =>
    let found :=
      if width ≤ p.column then body.run line { p with column := p.column - width } some else none
    match found, negated with
    | some q, false => k { q with column := p.column }
    | none, true => k p
    | _, _ => none

/-- The number of groups a pattern captures. -/
def Regex.groups : Regex → Nat
  | empty | char _ | spot _ | chars .. | backref .. => 0
  | seq first second | alt first second | ifGroup _ first second =>
    Nat.max first.groups second.groups
  | capture index body => Nat.max index body.groups
  | atomic body | loop _ _ _ body | ahead _ body | behind _ _ body => body.groups

/-- Where a match that begins at `column` ends. -/
def Regex.matchAt? (regex : Regex) (line : Line) (column : Nat) : Option Nat :=
  (regex.run line ⟨column, Array.replicate regex.groups {}⟩ some).map (·.column)

/-- A match, from its first column to behind its last one. -/
structure Span where
  start : Nat
  stop : Nat
  deriving DecidableEq

/-- The first of `count` columns from `column` on at which `stop?` has an answer. -/
def firstSpan? (stop? : Nat → Option Nat) : Nat → Nat → Option Span
  | 0, _ => none
  | count + 1, column =>
    match stop? column with
    | some stop => some ⟨column, stop⟩
    | none => firstSpan? stop? count (column + 1)

/-- The column at which a search from a position begins: the position, cut to the line. -/
def searchStart (line : Line) (position : Int) : Nat := Nat.min position.toNat line.size

/-- The match at the least column from `position` on. -/
def Regex.search? (regex : Regex) (line : Line) (position : Int) : Option Span :=
  let start := searchStart line position
  firstSpan? (regex.matchAt? line) (line.size + 1 - start) start

end LineFold.Pattern
