/-! Paths as text. Repeated slashes, single dots and a slash at the end do not count; two dots
stay until the path is resolved. Two slashes at the front, and no more, are a root of their own. -/
namespace LineFold

structure Path where
  root : String
  parts : List String
  deriving DecidableEq

namespace Path

/-- The pieces of a text between slashes; `piece` holds the one begun so far, the last character
first. -/
def splitSlashesFrom (piece : List Char) : List Char → List String
  | [] => [String.ofList piece.reverse]
  | c :: rest =>
    if c = '/' then String.ofList piece.reverse :: splitSlashesFrom [] rest
    else splitSlashesFrom (c :: piece) rest

def splitSlashes (text : String) : List String := splitSlashesFrom [] text.toList

def isRooted (text : String) : Bool := text.toList.head? = some '/'

def hasTilde (text : String) : Bool := text.toList.head? = some '~'

def rootOf (text : String) : String :=
  match (text.toList.takeWhile (· == '/')).length with
  | 0 => ""
  | 2 => "//"
  | _ => "/"

def ofText (text : String) : Path :=
  ⟨rootOf text, (splitSlashes text).filter fun part => part ≠ "" && part ≠ "."⟩

def joinParts (parts : List String) : String := String.intercalate "/" parts

def toText (path : Path) : String :=
  let text := path.root ++ joinParts path.parts
  if text = "" then "." else text

def isAbsolute (path : Path) : Bool := path.root ≠ ""

/-- A path seen from another one. -/
def join (base path : Path) : Path :=
  if path.isAbsolute then path else ⟨base.root, base.parts ++ path.parts⟩

def child (base : Path) (name : String) : Path := ⟨base.root, base.parts ++ [name]⟩

/-- Where a part leads from a directory if no link is in the way. -/
def enter (here : List String) (part : String) : List String :=
  if part = "" ∨ part = "." then here else if part = ".." then here.dropLast else here ++ [part]

def parent (path : Path) : Path := ⟨path.root, path.parts.dropLast⟩

/-- A list and what is left as its last items are dropped one after the other. -/
def shortened (parts : List String) : List (List String) :=
  (List.range (parts.length + 1)).reverse.map parts.take

/-- A path and those above it, the nearest first. -/
def withParents (path : Path) : List Path := (shortened path.parts).map fun parts => ⟨path.root, parts⟩

def ofParts (parts : List String) : Path := ⟨"/", parts⟩

/-- Whether a path begins with the parts of another one. -/
def isBelow (path base : Path) : Bool :=
  if base.isAbsolute then path.root == base.root && base.parts.isPrefixOf path.parts
  else if base.parts.isEmpty then !path.isAbsolute
  else !path.isAbsolute && base.parts.isPrefixOf path.parts

end Path

end LineFold
