import LineFold.Pattern.Tree

/-! How many characters a pattern can match: the least number, and the greatest one where
there is a bound. -/
namespace LineFold.Pattern

structure Width where
  least : Nat
  most : Option Nat
  deriving DecidableEq

namespace Width

def zero : Width := ⟨0, some 0⟩

def one : Width := ⟨1, some 1⟩

def addMost : Option Nat → Option Nat → Option Nat
  | some a, some b => some (a + b)
  | _, _ => none

def maxMost : Option Nat → Option Nat → Option Nat
  | some a, some b => some (max a b)
  | _, _ => none

def add (a b : Width) : Width := ⟨a.least + b.least, addMost a.most b.most⟩

def either (a b : Width) : Width := ⟨min a.least b.least, maxMost a.most b.most⟩

def scaleMost : Option Nat → Option Nat → Option Nat
  | some 0, _ => some 0
  | _, some 0 => some 0
  | some most, some max => some (most * max)
  | _, _ => none

def repeated (min : Nat) (max : Option Nat) (w : Width) : Width :=
  ⟨w.least * min, scaleMost w.most max⟩

/-- The number of characters, where every match has the same. -/
def fixed? (w : Width) : Option Nat :=
  if w.most = some w.least then some w.least else none

end Width

mutual

/-- The width of a node, given those of the groups it may refer to. -/
def Node.width (groups : Nat → Width) : Node → Width
  | .seq items => Node.totalWidth groups items
  | .literal _ | .notLiteral _ | .any | .set .. => .one
  | .anchor _ | .look .. => .zero
  | .branch alternatives => (Node.rangeOfWidths groups alternatives).getD .zero
  | .group _ _ _ body => body.width groups
  | .atomic body => body.width groups
  | .loop _ min max body => (body.width groups).repeated min max
  | .backref index => groups index
  | .conditional _ yes no => (yes.width groups).either (no.width groups)

def Node.totalWidth (groups : Nat → Width) : List Node → Width
  | [] => .zero
  | node :: rest => (node.width groups).add (Node.totalWidth groups rest)

def Node.rangeOfWidths (groups : Nat → Width) : List Node → Option Width
  | [] => none
  | node :: rest =>
    match Node.rangeOfWidths groups rest with
    | none => some (node.width groups)
    | some w => some ((node.width groups).either w)

end

end LineFold.Pattern
