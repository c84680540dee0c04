/-! Text in lines. A line ends at a line feed, a carriage return, both in this order, or one of
the other separators; an end behind the last line begins no further one. -/
namespace LineFold.Text

def isLineEnd (c : Char) : Bool :=
  (0x0A ≤ c.toNat && c.toNat ≤ 0x0D) || (0x1C ≤ c.toNat && c.toNat ≤ 0x1E) ||
    c.toNat == 0x85 || c.toNat == 0x2028 || c.toNat == 0x2029

/-- The rest of a text behind the line end `c`. -/
def dropLineEnd (c : Char) (rest : List Char) : List Char :=
  match c, rest with
  | '\r', '\n' :: rest => rest
  | _, rest => rest

theorem length_dropLineEnd_le (c : Char) (rest : List Char) :
    (dropLineEnd c rest).length ≤ rest.length := by
  unfold dropLineEnd
  split <;> simp

/-- The lines of a text; `line` holds the line begun so far, the last character first. -/
def splitLinesFrom (line : List Char) : List Char → List String
  | [] => if line.isEmpty then [] else [String.ofList line.reverse]
  | c :: rest =>
    if isLineEnd c then String.ofList line.reverse :: splitLinesFrom [] (dropLineEnd c rest)
    else splitLinesFrom (c :: line) rest
termination_by text => text.length
decreasing_by
  · have := length_dropLineEnd_le c rest
    simp only [List.length_cons]
    omega
  · simp

/-- The text with a line feed for every carriage return and a line feed behind it, if there is
one; `done` holds the characters so far, the last one first. -/
def unifyLineEndsFrom (done : List Char) : List Char → List Char
  | [] => done.reverse
  | c :: rest =>
    if c = '\r' then unifyLineEndsFrom ('\n' :: done) (dropLineEnd c rest)
    else unifyLineEndsFrom (c :: done) rest
termination_by text => text.length
decreasing_by
  · have := length_dropLineEnd_le c rest
    simp only [List.length_cons]
    omega
  · simp

def unifyLineEnds (text : List Char) : List Char := unifyLineEndsFrom [] text

def splitLines (text : String) : List String := splitLinesFrom [] text.toList

/-- The line at an index; a negative one counts from the end. -/
def lineAt? (lines : List String) (index : Int) : Option String :=
  if index < 0 then
    if -index ≤ lines.length then lines[(lines.length + index).toNat]? else none
  else lines[index.toNat]?

end LineFold.Text
