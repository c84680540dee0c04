/-! Reading UTF-8. A character begins with a byte that says how many more it has and which the
next one may be. An error tells the bytes from the one that began the character up to the one
that cannot follow. -/
namespace LineFold.Text.Utf8

inductive Problem where
  | start
  | continuation
  | unexpectedEnd
  deriving DecidableEq

/-- The bytes from `first` up to, not including, `last` are no character; `byte` is the first. -/
structure Fault where
  problem : Problem
  byte : UInt8
  first : Nat
  last : Nat
  deriving DecidableEq

def Problem.message : Problem → String
  | start => "invalid start byte"
  | continuation => "invalid continuation byte"
  | unexpectedEnd => "unexpected end of data"

def hexByte (byte : UInt8) : String :=
  let digits := Nat.toDigits 16 byte.toNat
  "0x" ++ String.ofList (if digits.length < 2 then '0' :: digits else digits)

def Fault.message (fault : Fault) : String :=
  let place :=
    if fault.last = fault.first + 1 then
      "byte " ++ hexByte fault.byte ++ " in position " ++ toString fault.first
    else "bytes in position " ++ toString fault.first ++ "-" ++ toString (fault.last - 1)
  "'utf-8' codec can't decode " ++ place ++ ": " ++ fault.problem.message

/-- A character that is being read: the bytes it still needs, the bounds of the next one, the
code so far, and its first byte with the position of it. -/
structure Partial where
  needed : Nat
  low : UInt8
  high : UInt8
  code : Nat
  byte : UInt8
  first : Nat

/-- What the first byte of a character of several bytes says. -/
def begin? (byte : UInt8) (position : Nat) : Option Partial :=
  let b := byte.toNat
  if 0xC2 ≤ b ∧ b ≤ 0xDF then some ⟨1, 0x80, 0xBF, b - 0xC0, byte, position⟩
  else if b = 0xE0 then some ⟨2, 0xA0, 0xBF, 0, byte, position⟩
  else if b = 0xED then some ⟨2, 0x80, 0x9F, 0xD, byte, position⟩
  else if 0xE1 ≤ b ∧ b ≤ 0xEF then some ⟨2, 0x80, 0xBF, b - 0xE0, byte, position⟩
  else if b = 0xF0 then some ⟨3, 0x90, 0xBF, 0, byte, position⟩
  else if 0xF1 ≤ b ∧ b ≤ 0xF3 then some ⟨3, 0x80, 0xBF, b - 0xF0, byte, position⟩
  else if b = 0xF4 then some ⟨3, 0x80, 0x8F, 4, byte, position⟩
  else none

/-- Reads bytes from `position` on; `done` holds the characters so far, the last one first. -/
def decodeFrom : Nat → Option Partial → List Char → List UInt8 → Except Fault (List Char)
  | _, none, done, [] => .ok done.reverse
  | position, some p, _, [] => .error ⟨.unexpectedEnd, p.byte, p.first, position⟩
  | position, none, done, byte :: rest =>
    if byte.toNat < 0x80 then
      decodeFrom (position + 1) none (Char.ofNat byte.toNat :: done) rest
    else match begin? byte position with
      | none => .error ⟨.start, byte, position, position + 1⟩
      | some p => decodeFrom (position + 1) (some p) done rest
  | position, some p, done, byte :: rest =>
    if byte < p.low || p.high < byte then .error ⟨.continuation, p.byte, p.first, position⟩
    else
      let code := 0x40 * p.code + (byte.toNat - 0x80)
      if p.needed ≤ 1 then decodeFrom (position + 1) none (Char.ofNat code :: done) rest
      else decodeFrom (position + 1)
        (some { p with needed := p.needed - 1, low := 0x80, high := 0xBF, code }) done rest

def decode (bytes : List UInt8) : Except Fault (List Char) := decodeFrom 0 none [] bytes

end LineFold.Text.Utf8
