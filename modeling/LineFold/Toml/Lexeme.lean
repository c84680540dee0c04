import LineFold.Text.Integer
import LineFold.Value

/-! The parts of a TOML document that hold no other values: blanks, comments, keys, strings,
numbers, dates and times. Line ends are line feeds. -/
namespace LineFold.Toml

/-- Why a document cannot be read. An integer of too many digits is no fault of its syntax. -/
inductive Failure where
  | malformed
  | longInteger (digits : Nat)
  deriving DecidableEq

abbrev Reader := StateT (List Char) (Except Failure)

def malformed {α : Type} : Reader α := throw .malformed

def peek : Reader (Option Char) := return (← get).head?

/-- Takes the characters at the front that satisfy `p`. -/
def takeWhile (p : Char → Bool) : Reader (List Char) := do
  let text ← get
  set (text.dropWhile p)
  return text.takeWhile p

def skipWhile (p : Char → Bool) : Reader Unit := modify (·.dropWhile p)

/-- Takes `text` if it stands at the front. -/
def accept (text : String) : Reader Bool := do
  let rest ← get
  if text.toList.isPrefixOf rest then
    set (rest.drop text.length)
    return true
  else return false

def expect (text : String) : Reader Unit := do
  unless ← accept text do malformed

def isBlank (c : Char) : Bool := c == ' ' || c == '\t'

def isBlankOrNewline (c : Char) : Bool := isBlank c || c == '\n'

def skipBlanks : Reader Unit := skipWhile isBlank

/-- Control characters, the tab apart, stand in no comment and in no string of one line. -/
def isControl (c : Char) : Bool := (c.toNat < 0x20 && c != '\t') || c.toNat == 0x7F

def isControlInLines (c : Char) : Bool := isControl c && c != '\n'

def skipComment : Reader Unit := do
  if ← accept "#" then
    let text ← takeWhile (· != '\n')
    if text.any isControl then malformed

/-- Skips blanks, line ends and comments; each round but the last takes a character. -/
def skipLines : Nat → Reader Unit
  | 0 => return ()
  | fuel + 1 => do
    skipWhile isBlankOrNewline
    if (← peek) = some '#' then
      skipComment
      skipLines fuel

def skipAllLines : Reader Unit := do skipLines ((← get).length + 1)

/-- What stands before the first `stop`, which is taken too. -/
def beforeText? (stop : List Char) : List Char → List Char → Option (List Char × List Char)
  | done, [] => if stop.isEmpty then some (done.reverse, []) else none
  | done, c :: rest =>
    if stop.isPrefixOf (c :: rest) then some (done.reverse, (c :: rest).drop stop.length)
    else beforeText? stop (c :: done) rest

def takeBefore (stop : String) (isIllegal : Char → Bool) : Reader (List Char) := do
  let some (text, rest) := beforeText? stop.toList [] (← get) | malformed
  if text.any isIllegal then malformed
  set rest
  return text

def literalString : Reader (List Char) := do
  expect "'"
  takeBefore "'" isControl

def isHexDigit (c : Char) : Bool :=
  c.isDigit || ('a' ≤ c && c ≤ 'f') || ('A' ≤ c && c ≤ 'F')

def digitOf (c : Char) : Nat :=
  if c.isDigit then c.toNat - 0x30 else if 'a' ≤ c then c.toNat - 0x57 else c.toNat - 0x37

def numeral (base : Nat) (digits : List Char) : Nat :=
  digits.foldl (fun n c => base * n + digitOf c) 0

/-- The character with a number of exactly `count` hexadecimal digits. -/
def hexCharacter (count : Nat) : Reader (List Char) := do
  let text ← get
  let digits := text.take count
  let code := numeral 16 digits
  if digits.length < count || !digits.all isHexDigit || !code.isValidChar then malformed
  set (text.drop count)
  return [Char.ofNat code]

/-- A line end that a backslash takes away together with the blanks around it. -/
def skippedNewline (c : Char) : Reader (List Char) := do
  if c != '\n' then
    skipBlanks
    match ← peek with
    | none => return []
    | some c => if c != '\n' then malformed
  skipWhile isBlankOrNewline
  return []

/-- What an escape stands for, its backslash read. -/
def escaped (multiline : Bool) : Reader (List Char) := do
  match ← get with
  | [] => malformed
  | c :: rest =>
    set rest
    match c with
    | 'b' => return ['\x08']
    | 't' => return ['\t']
    | 'n' => return ['\n']
    | 'f' => return ['\x0c']
    | 'r' => return ['\r']
    | '"' => return ['"']
    | '\\' => return ['\\']
    | 'u' => hexCharacter 4
    | 'U' => hexCharacter 8
    | c => if multiline && isBlankOrNewline c then skippedNewline c else malformed

/-- The rest of a string in quotes; `done` holds its characters so far, the last one first. -/
def quotedRest (multiline : Bool) : Nat → List Char → Reader (List Char)
  | 0, _ => malformed
  | fuel + 1, done => do
    if ← accept (if multiline then "\"\"\"" else "\"") then return done.reverse
    match ← get with
    | [] => malformed
    | '\\' :: rest =>
      set rest
      let chars ← escaped multiline
      quotedRest multiline fuel (chars.reverse ++ done)
    | c :: rest =>
      if (if multiline then isControlInLines c else isControl c) then malformed
      set rest
      quotedRest multiline fuel (c :: done)

def quotedString (multiline : Bool) : Reader (List Char) := do
  quotedRest multiline ((← get).length + 1) []

/-- Up to two quotes that stand directly before the closing three belong to the string. -/
def extraQuotes (quote : String) (text : List Char) : Reader (List Char) := do
  if ← accept (quote ++ quote) then return text ++ quote.toList ++ quote.toList
  if ← accept quote then return text ++ quote.toList
  return text

def stringValue : Reader (List Char) := do
  if ← accept "\"\"\"" then
    let _ ← accept "\n"
    extraQuotes "\"" (← quotedString true)
  else if ← accept "\"" then quotedString false
  else if ← accept "'''" then
    let _ ← accept "\n"
    extraQuotes "'" (← takeBefore "'''" isControlInLines)
  else literalString

abbrev Key := List String

def isBareKeyChar (c : Char) : Bool :=
  c.isAlphanum || c == '-' || c == '_'

def keyPart : Reader String := do
  match ← peek with
  | some '\'' => return String.ofList (← literalString)
  | some '"' =>
    expect "\""
    return String.ofList (← quotedString false)
  | _ =>
    let part ← takeWhile isBareKeyChar
    if part.isEmpty then malformed
    return String.ofList part

/-- The parts of a key behind its first one. -/
def keyRest : Nat → Reader Key
  | 0 => malformed
  | fuel + 1 => do
    skipBlanks
    if ← accept "." then
      skipBlanks
      let part ← keyPart
      return part :: (← keyRest fuel)
    else return []

def key : Reader Key := do
  let part ← keyPart
  return part :: (← keyRest ((← get).length + 1))

/-- Digits, where one underscore may stand between two of them. -/
def digitsWith (isDigit : Char → Bool) : List Char → List Char × List Char
  | c :: rest =>
    if isDigit c then
      let (digits, rest) := digitsWith isDigit rest
      (c :: digits, rest)
    else match c, rest with
      | '_', d :: rest =>
        if isDigit d then
          let (digits, rest) := digitsWith isDigit rest
          (d :: digits, rest)
        else ([], c :: d :: rest)
      | _, _ => ([], c :: rest)
  | [] => ([], [])

/-- Digits of which the first is no underscore. -/
def digitsAt (isDigit : Char → Bool) (text : List Char) : Option (List Char × List Char) :=
  match text with
  | c :: _ => if isDigit c then some (digitsWith isDigit text) else none
  | [] => none

/-- A number with a base: its value and what follows. -/
def basedInteger? : List Char → Option (Nat × List Char)
  | '0' :: 'x' :: rest => (digitsAt isHexDigit rest).map fun (ds, rest) => (numeral 16 ds, rest)
  | '0' :: 'o' :: rest =>
    (digitsAt (fun c => '0' ≤ c && c ≤ '7') rest).map fun (ds, rest) => (numeral 8 ds, rest)
  | '0' :: 'b' :: rest =>
    (digitsAt (fun c => c == '0' || c == '1') rest).map fun (ds, rest) => (numeral 2 ds, rest)
  | _ => none

def readSign : List Char → Bool × List Char
  | '-' :: rest => (true, rest)
  | '+' :: rest => (false, rest)
  | text => (false, text)

/-- The digits behind a point, if any. -/
def fractionAt (text : List Char) : Option (List Char × List Char) :=
  match text with
  | '.' :: rest => digitsAt Char.isDigit rest
  | _ => none

def exponentAt (text : List Char) : Option (Int × List Char) :=
  match text with
  | c :: rest =>
    if c == 'e' || c == 'E' then
      let (negative, rest) := readSign rest
      (digitsAt Char.isDigit rest).map fun (ds, rest) =>
        (if negative then -(numeral 10 ds : Int) else numeral 10 ds, rest)
    else none
  | [] => none

/-- The digits of a decimal integer: a zero alone, or digits of which the first is no zero. -/
def wholeDigits? : List Char → Option (List Char × List Char)
  | '0' :: rest => some (['0'], rest)
  | text => digitsAt Char.isDigit text

def decimalNumber? (text : List Char) : Option (Except Failure Value × List Char) :=
  let (negative, unsigned) := readSign text
  (wholeDigits? unsigned).map fun (whole, rest) =>
    let (fraction, afterFraction) := (fractionAt rest).getD ([], rest)
    match fraction.isEmpty, exponentAt afterFraction with
    | true, none =>
      let n : Int := numeral 10 whole
      if whole.length > Text.integerDigitLimit then (.error (.longInteger whole.length), rest)
      else (.ok (.int (if negative then -n else n)), rest)
    | _, exponent =>
      let (exponent, rest) := exponent.getD (0, afterFraction)
      let magnitude := Number.Double.ofDecimal (numeral 10 (whole ++ fraction))
        (exponent - fraction.length)
      (.ok (.double ⟨negative, magnitude⟩), rest)

def specialNumber? (text : List Char) : Option (Value × List Char) :=
  let (negative, unsigned) := readSign text
  match unsigned with
  | 'i' :: 'n' :: 'f' :: rest => some (.double ⟨negative, Number.Double.infinity⟩, rest)
  | 'n' :: 'a' :: 'n' :: rest => some (.double ⟨negative, Number.Double.notANumber⟩, rest)
  | _ => none

/-- Exactly two digits with a value from `low` to `high`. -/
def twoDigits? (low high : Nat) : List Char → Option (Nat × List Char)
  | a :: b :: rest =>
    let n := numeral 10 [a, b]
    if a.isDigit && b.isDigit && low ≤ n && n ≤ high then some (n, rest) else none
  | _ => none

def char? (c : Char) : List Char → Option (List Char)
  | d :: rest => if c = d then some rest else none
  | [] => none

def microseconds (digits : List Char) : Nat :=
  let shown := digits.take 6
  numeral 10 (shown ++ List.replicate (6 - shown.length) '0')

def time? (text : List Char) : Option (Time × List Char) := do
  let (hour, text) ← twoDigits? 0 23 text
  let (minute, text) ← twoDigits? 0 59 (← char? ':' text)
  let (second, text) ← twoDigits? 0 59 (← char? ':' text)
  match text with
  | '.' :: rest =>
    let digits := rest.takeWhile Char.isDigit
    if digits.isEmpty then some (⟨hour, minute, second, 0⟩, text)
    else some (⟨hour, minute, second, microseconds digits⟩, rest.dropWhile Char.isDigit)
  | _ => some (⟨hour, minute, second, 0⟩, text)

def daysInMonth (year month : Nat) : Nat :=
  if month = 2 then
    if year % 4 = 0 ∧ (year % 100 ≠ 0 ∨ year % 400 = 0) then 29 else 28
  else if month = 4 ∨ month = 6 ∨ month = 9 ∨ month = 11 then 30 else 31

def Date.isValid (date : Date) : Bool :=
  1 ≤ date.year && date.day ≤ daysInMonth date.year date.month

def date? (text : List Char) : Option (Date × List Char) := do
  let year := text.take 4
  if year.length < 4 || !year.all Char.isDigit then none
  let (month, text) ← twoDigits? 1 12 (← char? '-' (text.drop 4))
  let (day, text) ← twoDigits? 1 31 (← char? '-' text)
  return (⟨numeral 10 year, month, day⟩, text)

/-- An offset from universal time in minutes, if there is one. -/
def zoneAt (text : List Char) : Option Int × List Char :=
  let signed (negative : Bool) (rest : List Char) : Option (Int × List Char) := do
    let (hours, rest) ← twoDigits? 0 23 rest
    let (minutes, rest) ← twoDigits? 0 59 (← char? ':' rest)
    let total : Int := 60 * hours + minutes
    return (if negative then -total else total, rest)
  match text with
  | c :: rest =>
    if c == 'Z' || c == 'z' then (some 0, rest)
    else if c == '+' || c == '-' then
      match signed (c == '-') rest with
      | some (minutes, rest) => (some minutes, rest)
      | none => (none, text)
    else (none, text)
  | [] => (none, text)

/-- A date, with the time behind it if there is one. -/
def dateTime? (text : List Char) : Option (Date × Value × List Char) := do
  let (date, rest) ← date? text
  let clock := match rest with
    | c :: rest => if c == 'T' || c == 't' || c == ' ' then time? rest else none
    | [] => none
  match clock with
  | none => return (date, .date date, rest)
  | some (time, rest) =>
    let (zone, rest) := zoneAt rest
    return (date, .dateTime date time zone, rest)

/-- A date, a time or a number. -/
def scalar : Reader Value := do
  let text ← get
  match dateTime? text with
  | some (date, value, rest) =>
    unless Date.isValid date do malformed
    set rest
    return value
  | none => match time? text with
    | some (time, rest) =>
      set rest
      return .time time
    | none => match basedInteger? text with
      | some (n, rest) =>
        set rest
        return .int n
      | none => match decimalNumber? text with
        | some (.ok value, rest) =>
          set rest
          return value
        | some (.error failure, _) => throw failure
        | none => match specialNumber? text with
          | some (value, rest) =>
            set rest
            return value
          | none => malformed

end LineFold.Toml
