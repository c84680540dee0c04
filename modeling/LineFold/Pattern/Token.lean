import LineFold.Pattern.Error
import LineFold.Pattern.Width

/-! Tokens of a pattern and the cursor that reads them. A backslash and the character behind
it are one token; a backslash at the very end is a fault as soon as it becomes the next token. -/
namespace LineFold.Pattern

inductive Token where
  | char (c : Char)
  | escape (c : Char)
  | dangling
  deriving DecidableEq

def Token.text : Token → List Char
  | .char c => [c]
  | .escape c => ['\\', c]
  | .dangling => ['\\']

def tokenize : List Char → List Token
  | [] => []
  | ['\\'] => [.dangling]
  | '\\' :: c :: rest => .escape c :: tokenize rest
  | c :: rest => .char c :: tokenize rest

def tokensText (tokens : List Token) : List Char := tokens.flatMap Token.text

/-- What the reader knows: the tokens left and the code point the next one stands at, the
global options, the width of each group (none while it is open), named groups, the number of
groups at the start of the outermost lookbehind, and conditions on groups not yet seen. -/
structure Cursor where
  rest : List Token
  position : Nat := 0
  options : Options := {}
  widths : List (Option Width) := []
  names : List (List Char × Nat) := []
  lookbehindFrom : Option Nat := none
  pending : List (Nat × Nat) := []

/-- The number of groups, the whole match included. -/
def Cursor.groups (cursor : Cursor) : Nat := cursor.widths.length + 1

def Cursor.isClosed (cursor : Cursor) (index : Nat) : Bool :=
  match index with
  | 0 => false
  | n + 1 => match cursor.widths[n]? with
    | some (some _) => true
    | _ => false

abbrev ReadM := StateT Cursor (Except Failure)

def failAt {α : Type} (fault : Fault) (position : Nat) : ReadM α :=
  throw (.refused (.fault fault position))

/-- Fails `back` code points before the next token. -/
def fail {α : Type} (fault : Fault) (back : Nat) : ReadM α := do
  failAt fault ((← get).position - back)

def skip (count : Nat) : ReadM Unit := do
  let cursor ← get
  if (cursor.rest.take (count + 1)).contains .dangling then
    let before := cursor.rest.takeWhile (· != .dangling)
    failAt .danglingBackslash (cursor.position + (tokensText before).length)
  set { cursor with
    rest := cursor.rest.drop count
    position := cursor.position + (tokensText (cursor.rest.take count)).length }

def peek : ReadM (Option Token) := return (← get).rest.head?

def next : ReadM (Option Token) := do
  let token ← peek
  if token.isSome then skip 1
  return token

def accept (c : Char) : ReadM Bool := do
  if (← peek) = some (.char c) then
    skip 1
    return true
  else return false

/-- The characters at the head of the tokens that satisfy `p`. -/
def leadingChars (p : Char → Bool) : List Token → List Char
  | .char c :: rest => if p c then c :: leadingChars p rest else []
  | _ => []

/-- At most `limit` characters that satisfy `p`. -/
def takeChars (limit : Nat) (p : Char → Bool) : ReadM (List Char) := do
  let chars := leadingChars p ((← get).rest.take limit)
  skip chars.length
  return chars

/-- The text up to `terminator`, which is skipped too. -/
def readUntil (terminator : Char) (what : String) : ReadM (List Char) := do
  let rest := (← get).rest
  let before := rest.takeWhile (· != .char terminator)
  let text := tokensText before
  if before.length < rest.length then
    skip (before.length + 1)
    if text.isEmpty then fail (.missingName what) 1
    return text
  else
    skip before.length
    if text.isEmpty then fail (.missingName what) 0
    fail (.unterminatedName terminator) text.length

/-- Skips to behind the next `c`; false where there is none. -/
def skipPast (c : Char) : ReadM Bool := do
  let rest := (← get).rest
  let before := rest.takeWhile (· != .char c)
  if before.length < rest.length then
    skip (before.length + 1)
    return true
  else
    skip before.length
    return false

end LineFold.Pattern
