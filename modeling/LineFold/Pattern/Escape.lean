import LineFold.Pattern.Token

/-! Escapes, in a character set and outside of one. A character may be given by its name; which
names there are is left to a table. -/
namespace LineFold.Pattern

/-- The character that a name stands for, where it stands for exactly one. -/
abbrev CharacterNames := List Char → Option Char

variable (names : CharacterNames)

def isHexDigit (c : Char) : Bool :=
  c.isDigit || ('a' ≤ c && c ≤ 'f') || ('A' ≤ c && c ≤ 'F')

def isOctalDigit (c : Char) : Bool := '0' ≤ c && c ≤ '7'

def digitOf (c : Char) : Nat :=
  if c.isDigit then c.toNat - 0x30
  else if 'a' ≤ c then c.toNat - 0x57
  else c.toNat - 0x37

def numeral (base : Nat) (digits : List Char) : Nat :=
  digits.foldl (fun n c => base * n + digitOf c) 0

/-- The code point named by exactly `count` hexadecimal digits after the letter. -/
def hexEscape (letter : Char) (count : Nat) : ReadM Nat := do
  let digits ← takeChars count isHexDigit
  let text := '\\' :: letter :: digits
  if digits.length < count then fail (.incompleteEscape text) text.length
  if numeral 16 digits > 0x10FFFF then fail (.badEscape text) text.length
  return numeral 16 digits

/-- The code point of a character that is given by its name in braces. -/
def namedEscape : ReadM Nat := do
  unless ← accept '{' do fail .missingBrace 0
  let name ← readUntil '}' "character name"
  match names name with
  | some c => return c.toNat
  | none => fail (.unknownCharacterName name) (name.length + 4)

def controlEscape? : Char → Option Nat
  | 'a' => some 7
  | 'b' => some 8
  | 'f' => some 12
  | 'n' => some 10
  | 'r' => some 13
  | 't' => some 9
  | 'v' => some 11
  | '\\' => some 0x5C
  | _ => none

def categoryEscape? : Char → Option Member
  | 'd' => some (.category .digit false)
  | 'D' => some (.category .digit true)
  | 's' => some (.category .space false)
  | 'S' => some (.category .space true)
  | 'w' => some (.category .word false)
  | 'W' => some (.category .word true)
  | _ => none

def anchorEscape? : Char → Option Anchor
  | 'A' => some .textStart
  | 'Z' => some .textEnd
  | 'b' => some .boundary
  | 'B' => some .nonBoundary
  | _ => none

/-- The escapes by number, and any other character that is no ASCII letter standing for itself. -/
def literalEscape (c : Char) : ReadM Nat := do
  if c = 'x' then hexEscape c 2
  else if c = 'u' then hexEscape c 4
  else if c = 'U' then hexEscape c 8
  else if c = 'N' then namedEscape names
  else if c.isAlpha || c.isDigit then fail (.badEscape ['\\', c]) 2
  else return c.toNat

/-- Up to three octal digits, the first of them read. -/
def octalEscape (c : Char) : ReadM Nat := do
  let digits := c :: (← takeChars 2 isOctalDigit)
  if numeral 8 digits > 0o377 then
    fail (.octalTooLarge ('\\' :: digits)) (digits.length + 1)
  return numeral 8 digits

def memberEscape (c : Char) : ReadM Member := do
  match controlEscape? c with
  | some code => return .code code
  | none => match categoryEscape? c with
    | some member => return member
    | none =>
      if isOctalDigit c then return .code (← octalEscape c)
      else return .code (← literalEscape names c)

/-- A reference to a group that must be closed and lie before the enclosing lookbehind. -/
def checkLookbehind (index : Nat) : ReadM Unit := do
  let cursor ← get
  match cursor.lookbehindFrom with
  | none => return ()
  | some first =>
    unless cursor.isClosed index do fail .openGroupReference 0
    if first ≤ index then fail .sameLookbehindReference 0

/-- Three octal digits are a code point; otherwise one or two digits are a group number. -/
def numberEscape (c : Char) : ReadM Node := do
  let tail ← takeChars 1 Char.isDigit
  let third ← if tail.length = 1 ∧ (c :: tail).all isOctalDigit
    then takeChars 1 isOctalDigit else pure []
  let digits := c :: tail ++ third
  if digits.length = 3 then
    if numeral 8 digits > 0o377 then fail (.octalTooLarge ('\\' :: digits)) 4
    return .literal (numeral 8 digits)
  let index := numeral 10 digits
  if index < (← get).groups then
    unless (← get).isClosed index do fail .openGroupReference (digits.length + 1)
    checkLookbehind index
    return .backref index
  fail (.invalidGroupReference index) digits.length

def escapeNode (c : Char) : ReadM Node := do
  match anchorEscape? c with
  | some anchor => return .anchor anchor
  | none => match categoryEscape? c with
    | some member => return .set false [member]
    | none => match controlEscape? c with
      | some code => return .literal code
      | none =>
        if c = '0' then
          let digits ← takeChars 2 isOctalDigit
          return .literal (numeral 8 digits)
        else if c.isDigit then numberEscape c
        else return .literal (← literalEscape names c)

end LineFold.Pattern
