/-! Pattern syntax as it is read, before flags are applied.
Code points are numbers, since an escape may name a surrogate, which is no character.
Every body is a `seq`, so that an item list is never more than one constructor away. -/
namespace LineFold.Pattern

/-- Switches of a pattern or of a scoped group. `ascii` and `unicode` choose the alphabet. -/
structure Options where
  ignoreCase : Bool := false
  multiLine : Bool := false
  dotAll : Bool := false
  verbose : Bool := false
  ascii : Bool := false
  unicode : Bool := false
  template : Bool := false
  deriving DecidableEq

def Options.none : Options := {}

def Options.union (a b : Options) : Options where
  ignoreCase := a.ignoreCase || b.ignoreCase
  multiLine := a.multiLine || b.multiLine
  dotAll := a.dotAll || b.dotAll
  verbose := a.verbose || b.verbose
  ascii := a.ascii || b.ascii
  unicode := a.unicode || b.unicode
  template := a.template || b.template

def Options.inter (a b : Options) : Options where
  ignoreCase := a.ignoreCase && b.ignoreCase
  multiLine := a.multiLine && b.multiLine
  dotAll := a.dotAll && b.dotAll
  verbose := a.verbose && b.verbose
  ascii := a.ascii && b.ascii
  unicode := a.unicode && b.unicode
  template := a.template && b.template

def Options.without (a b : Options) : Options where
  ignoreCase := a.ignoreCase && !b.ignoreCase
  multiLine := a.multiLine && !b.multiLine
  dotAll := a.dotAll && !b.dotAll
  verbose := a.verbose && !b.verbose
  ascii := a.ascii && !b.ascii
  unicode := a.unicode && !b.unicode
  template := a.template && !b.template

/-- Options inside a scoped group: a chosen alphabet replaces the outer one. -/
def Options.scoped (outer on off : Options) : Options :=
  let base := if on.ascii || on.unicode then { outer with ascii := false, unicode := false } else outer
  (base.union on).without off

inductive Category where
  | digit
  | space
  | word
  deriving DecidableEq

inductive Member where
  | code (code : Nat)
  | range (low high : Nat)
  | category (category : Category) (negated : Bool)
  deriving DecidableEq

inductive Anchor where
  | lineStart
  | lineEnd
  | textStart
  | textEnd
  | boundary
  | nonBoundary
  deriving DecidableEq

/-- The order in which repetition counts are tried; a possessive count is never given back. -/
inductive Greed where
  | greedy
  | lazy
  | possessive
  deriving DecidableEq

inductive Node where
  | seq (items : List Node)
  | literal (code : Nat)
  | notLiteral (code : Nat)
  | any
  | set (negated : Bool) (members : List Member)
  | anchor (anchor : Anchor)
  | branch (alternatives : List Node)
  | group (index : Option Nat) (on off : Options) (body : Node)
  | atomic (body : Node)
  | loop (greed : Greed) (min : Nat) (max : Option Nat) (body : Node)
  | backref (index : Nat)
  | conditional (index : Nat) (yes no : Node)
  | look (behind negated : Bool) (body : Node)

def Node.items : Node → List Node
  | .seq items => items
  | node => [node]

/-- A group that neither captures nor changes options; it stands for its items. -/
def Node.plainGroup? : Node → Option Node
  | .group none on off body => if on = .none ∧ off = .none then some body else none
  | _ => none

def Node.isAnchor : Node → Bool
  | .anchor _ => true
  | _ => false

def Node.isLoop : Node → Bool
  | .loop .. => true
  | _ => false

/-- Equality of items without parts; an item with a body equals no other. -/
def Node.sameLeaf : Node → Node → Bool
  | .literal a, .literal b => a == b
  | .notLiteral a, .notLiteral b => a == b
  | .any, .any => true
  | .set n a, .set m b => n == m && a == b
  | .anchor a, .anchor b => a == b
  | .backref a, .backref b => a == b
  | _, _ => false

end LineFold.Pattern
