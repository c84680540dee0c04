import LineFold.Pattern.Tree
import LineFold.Unicode.Case
import LineFold.Unicode.Numeric

/-! Tests of one character. Under a case fold the character is made lowercase first, and the
members are those that lowercase characters are compared with. -/
namespace LineFold.Pattern

/-- How letter case is ignored. -/
inductive Fold where
  | exact
  | ascii
  | unicode
  deriving DecidableEq

def Fold.lower : Fold → Nat → Nat
  | exact, code => code
  | ascii, code => Unicode.lowerAscii code
  | unicode, code => Unicode.lower code

def Fold.isCased : Fold → Nat → Bool
  | exact, _ => false
  | ascii, code => Unicode.isCasedAscii code
  | unicode, code => Unicode.isCased code

/-- Lowercase code points that count as equal to `code`, which is one of them. -/
def Fold.variants (fold : Fold) (code : Nat) : List Nat :=
  match fold with
  | unicode => code :: Unicode.caseVariants code
  | _ => [code]

inductive CodeTest where
  | code (code : Nat)
  | range (low high : Nat)
  | anyCaseRange (low high : Nat)
  | category (ascii : Bool) (category : Category) (negated : Bool)
  deriving DecidableEq

def Category.holdsAscii (category : Category) (code : Nat) : Bool :=
  match category with
  | digit => 0x30 ≤ code && code ≤ 0x39
  | space => code == 0x20 || (9 ≤ code && code ≤ 13)
  | word => Unicode.isCasedAscii code || (0x30 ≤ code && code ≤ 0x39) || code == 0x5F

def Category.holds (category : Category) (code : Nat) : Bool :=
  match category with
  | digit => Unicode.isDecimal code
  | space => Unicode.isSpace code
  | word => Unicode.isWord code

def isWordCode (ascii : Bool) (code : Nat) : Bool :=
  if ascii then Category.word.holdsAscii code else Category.word.holds code

def CodeTest.accepts (n : Nat) : CodeTest → Bool
  | .code wanted => n == wanted
  | .range low high => low ≤ n && n ≤ high
  | .anyCaseRange low high =>
    (low ≤ n && n ≤ high) || (low ≤ Unicode.upper n && Unicode.upper n ≤ high)
  | .category ascii kind negated =>
    (if ascii then kind.holdsAscii n else kind.holds n) != negated

structure CharTest where
  fold : Fold
  negated : Bool
  members : List CodeTest
  deriving DecidableEq

def CharTest.accepts (test : CharTest) (c : Char) : Bool :=
  test.members.any (CodeTest.accepts (test.fold.lower c.toNat)) != test.negated

/-- The test for one code point; a code point without case is compared as it is. -/
def CharTest.ofCode (fold : Fold) (negated : Bool) (code : Nat) : CharTest :=
  if fold.isCased code then ⟨fold, negated, (fold.variants (fold.lower code)).map .code⟩
  else ⟨.exact, negated, [.code code]⟩

/-- The last code point of the basic plane; case is ignored differently above it. -/
def basicPlaneLast : Nat := 0xFFFF

/-- The tests for the basic part of a range, other than the range itself. -/
def foldedImages (fold : Fold) (low high : Nat) : List CodeTest :=
  match fold with
  | .exact => []
  | .ascii =>
    [.range (max low 0x41 + 0x20) (min high 0x5A + 0x20)]
  | .unicode =>
    let images := Unicode.lowerImages low high
    let related := Unicode.sameUppercase.filter fun cls =>
      cls.any fun code => (low ≤ code && code ≤ high) || images.contains code
    (images ++ related.flatten).map .code

def foldedRange (fold : Fold) (low high : Nat) : List CodeTest :=
  let basic := foldedImages fold low (min high basicPlaneLast)
  .range low (min high basicPlaneLast) ::
    (if high > basicPlaneLast then .anyCaseRange low high :: basic else basic)

def foldedMember (fold : Fold) (ascii : Bool) : Member → List CodeTest
  | .code code =>
    if fold.lower code > basicPlaneLast then [.code code]
    else (fold.variants (fold.lower code)).map .code
  | .range low high => foldedRange fold low high
  | .category category negated => [.category ascii category negated]

/-- Whether the case of characters matters to a member of a set under `fold`. -/
def Member.isCased (fold : Fold) : Member → Bool
  | .code n => fold.lower n > basicPlaneLast || fold.isCased n
  | .range low high =>
    high > basicPlaneLast || match fold with
      | .exact => false
      | .ascii => (low ≤ 0x5A && 0x41 ≤ high) || (low ≤ 0x7A && 0x61 ≤ high)
      | .unicode => Unicode.hasCasedBetween low high
  | .category .. => false

def plainMember (ascii : Bool) : Member → CodeTest
  | .code code => .code code
  | .range low high => .range low high
  | .category category negated => .category ascii category negated

def CharTest.ofMembers (fold : Fold) (ascii negated : Bool) (members : List Member) : CharTest :=
  if fold ≠ .exact ∧ members.any (·.isCased fold) then
    ⟨fold, negated, members.flatMap (foldedMember fold ascii)⟩
  else ⟨.exact, negated, members.map (plainMember ascii)⟩

end LineFold.Pattern
