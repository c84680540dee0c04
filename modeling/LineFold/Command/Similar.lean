/-! Names that resemble a mistyped one. The likeness of two texts is twice the number of their
matching characters over their total length. Matching takes the longest common run, the earliest
one of several, and goes on with what stands before it and behind it. -/
namespace LineFold.Command

def commonStart : List Char → List Char → Nat
  | a :: as, b :: bs => if a = b then commonStart as bs + 1 else 0
  | _, _ => 0

structure Run where
  first : Nat
  second : Nat
  length : Nat

/-- The longest common run, the earliest one in the first text and then in the second. -/
def longestRun (a b : List Char) : Run :=
  (List.range a.length).foldl (fun best i =>
    (List.range b.length).foldl (fun best j =>
      let length := commonStart (a.drop i) (b.drop j)
      if best.length < length then ⟨i, j, length⟩ else best) best) ⟨0, 0, 0⟩

/-- The number of matching characters; the fuel covers each character of the first text. -/
def matchingChars : Nat → List Char → List Char → Nat
  | 0, _, _ => 0
  | fuel + 1, a, b =>
    let run := longestRun a b
    if run.length = 0 then 0
    else run.length +
      matchingChars fuel (a.take run.first) (b.take run.second) +
      matchingChars fuel (a.drop (run.first + run.length)) (b.drop (run.second + run.length))

structure Likeness where
  name : String
  matching : Nat
  total : Nat

def likeness (wanted name : String) : Likeness :=
  ⟨name, matchingChars (name.length + 1) name.toList wanted.toList, name.length + wanted.length⟩

/-- At least three fifths. -/
def Likeness.isClose (l : Likeness) : Bool := 3 * l.total ≤ 10 * l.matching

/-- The better likeness goes first, and the later name where they are equal. -/
def Likeness.isBefore (a b : Likeness) : Bool :=
  b.matching * a.total < a.matching * b.total ||
    (a.matching * b.total == b.matching * a.total && b.name ≤ a.name)

/-- The three closest of the names that are close to `wanted`, in the order of the alphabet. -/
def closeNames (wanted : String) (names : List String) : List String :=
  let close := (names.map (likeness wanted)).filter Likeness.isClose
  (((close.mergeSort Likeness.isBefore).take 3).map (·.name)).mergeSort fun a b => a ≤ b

end LineFold.Command
