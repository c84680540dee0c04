import LineFold.Files.Path
import LineFold.Text.Quoted

/-! Paths as a program is given them. Their texts may hold lone surrogates, which UTF-8 has no bytes
for, so that no file can be opened by such a path. Surrogates that stand for the bytes of names in
another encoding are left out, as such names are. -/
namespace LineFold

/-- A surrogate that stands for no byte of a name. -/
structure LoneSurrogate where
  code : Nat
  isSurrogate : 0xD800 ≤ code ∧ code < 0xE000
  noByte : ¬(0xDC80 ≤ code ∧ code < 0xDD00)
  deriving DecidableEq

inductive Sign where
  | char (c : Char)
  | lone (surrogate : LoneSurrogate)
  deriving DecidableEq

def Sign.char? : Sign → Option Char
  | char c => some c
  | lone _ => none

/-- Surrogates in a text that follow one another: where they begin, the first of them and how many
come after it. -/
structure Unencodable where
  position : Nat
  first : LoneSurrogate
  more : Nat
  deriving DecidableEq

def Unencodable.message (fault : Unencodable) : String :=
  let place :=
    if fault.more = 0 then
      "character '\\u" ++ String.ofList (Text.hexDigits 4 fault.first.code) ++ "' in position " ++
        toString fault.position
    else
      "characters in position " ++ toString fault.position ++ "-" ++
        toString (fault.position + fault.more)
  "'utf-8' codec can't encode " ++ place ++ ": surrogates not allowed"

/-- The first surrogates of a text; the positions are counted from `position`. -/
def unencodableFrom? : Nat → List Sign → Option Unencodable
  | _, [] => none
  | position, .char _ :: rest => unencodableFrom? (position + 1) rest
  | position, .lone first :: rest =>
    some ⟨position, first, (rest.takeWhile fun sign => sign.char?.isNone).length⟩

structure GivenPath where
  root : String
  parts : List (List Sign)
  deriving DecidableEq

namespace GivenPath

def signs (path : GivenPath) : List Sign :=
  let signs := path.root.toList.map Sign.char ++ [Sign.char '/'].intercalate path.parts
  if signs.isEmpty then [.char '.'] else signs

def unencodable? (path : GivenPath) : Option Unencodable := unencodableFrom? 0 path.signs

/-- The path without its surrogates. -/
def path (path : GivenPath) : Path :=
  ⟨path.root, path.parts.map fun part => String.ofList (part.filterMap Sign.char?)⟩

end GivenPath

def Path.given (path : Path) : GivenPath := ⟨path.root, path.parts.map fun part => part.toList.map .char⟩

end LineFold
