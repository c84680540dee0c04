import LineFold.Unicode.Numeric

/-! Decimal integer text: white space around it, one sign, digits of any script with single
underscores between them, and at most 4300 digits. -/
namespace LineFold.Text

def integerDigitLimit : Nat := 4300

/-- White space around a number; the ASCII separators U+001C to U+001F do not count. -/
def isNumberBlank (c : Char) : Bool :=
  if c.toNat < 0x7F then (9 ≤ c.toNat && c.toNat ≤ 13) || c == ' '
  else Unicode.isSpace c.toNat

def digitValue? (c : Char) : Option Nat := Unicode.decimalValue? c.toNat

/-- The digits of a number, where an underscore may stand between two of them. -/
def readDigits : List Char → Option (List Nat)
  | [] => none
  | [c] => (digitValue? c).map ([·])
  | c :: '_' :: rest => do
    let digit ← digitValue? c
    return digit :: (← readDigits rest)
  | c :: rest => do
    let digit ← digitValue? c
    return digit :: (← readDigits rest)

def digitsValue (digits : List Nat) : Nat := digits.foldl (fun n d => 10 * n + d) 0

def readNatural? (text : List Char) : Option Nat := do
  let digits ← readDigits text
  if digits.length ≤ integerDigitLimit then some (digitsValue digits) else none

def stripNumberBlanks (text : List Char) : List Char :=
  ((text.dropWhile isNumberBlank).reverse.dropWhile isNumberBlank).reverse

def readInteger? (text : List Char) : Option Int :=
  match stripNumberBlanks text with
  | '-' :: rest => (readNatural? rest).map fun n => -(n : Int)
  | '+' :: rest => (readNatural? rest).map Int.ofNat
  | unsigned => (readNatural? unsigned).map Int.ofNat

/-- Whether a number has no more digits than are read. -/
def isWritable (n : Int) : Bool := n.natAbs < Nat.pow 10 integerDigitLimit

def unwritableMessage : String :=
  "Exceeds the limit (4300 digits) for integer string conversion; " ++
    "use sys.set_int_max_str_digits() to increase the limit"

end LineFold.Text
