import LineFold.Files.Path
import LineFold.Limits
import LineFold.Text.Quoted

/-! Files, directories and symbolic links, and how a path leads to one of them. To look anything up in
a directory one must be allowed to search it, and to open a file one must be allowed to read it. Other
kinds of entries, such as pipes and devices, are left out, and so are names in other encodings than
UTF-8 and files that change during a run. -/
namespace LineFold

inductive Entry where
  | directory
  | file (content : List UInt8)
  | link (target : String)
  deriving DecidableEq

/-- Why a path leads nowhere, or a file cannot be read. -/
inductive Obstacle where
  | missing
  | permissionDenied
  | notDirectory
  | isDirectory
  | nameTooLong
  | tooManyLinks
  deriving DecidableEq

def Obstacle.number : Obstacle → Nat
  | missing => 2
  | permissionDenied => 13
  | notDirectory => 20
  | isDirectory => 21
  | nameTooLong => 36
  | tooManyLinks => 40

def Obstacle.text : Obstacle → String
  | missing => "No such file or directory"
  | permissionDenied => "Permission denied"
  | notDirectory => "Not a directory"
  | isDirectory => "Is a directory"
  | nameTooLong => "File name too long"
  | tooManyLinks => "Too many levels of symbolic links"

def Obstacle.message (obstacle : Obstacle) (path : String) : String :=
  "[Errno " ++ toString obstacle.number ++ "] " ++ obstacle.text ++ ": " ++ Text.quoted path

/-- Why an access fails. A path that holds a NUL is refused before it is looked at. -/
inductive AccessError where
  | nulByte
  | obstacle (obstacle : Obstacle) (path : String)
  deriving DecidableEq

def nulByteMessage : String := "embedded null byte"

def AccessError.message : AccessError → String
  | nulByte => nulByteMessage
  | obstacle o path => o.message path

/-- What there is, by the parts of absolute paths. The root is always a directory. Directories that
are closed may not be searched, and what is locked may not be read. -/
structure Disk where
  entries : List (List String × Entry)
  closed : List (List String) := []
  locked : List (List String) := []

namespace Disk

def entry? (disk : Disk) (parts : List String) : Option Entry :=
  if parts.isEmpty then some .directory else disk.entries.lookup parts

def isClosed (disk : Disk) (place : List String) : Bool := disk.closed.contains place

def isLocked (disk : Disk) (place : List String) : Bool := disk.locked.contains place

/-- Links followed for one path. -/
def linkLimit : Nat := 40

def nameLimit : Nat := 255

def pathLimit : Nat := 4096

/-- Follows parts from the directory `here`. At a link `jump` goes on, from its directory to its
target and then to the parts behind it; but a link at the very end is only followed where `follow`
says so. Every part that is not empty is looked up in the directory, dots too. -/
def walkParts (disk : Disk) (follow : Bool)
    (jump : List String → String → List String → Except Obstacle (List String × Entry)) :
    List String → List String → Except Obstacle (List String × Entry)
  | here, [] => match disk.entry? here with
    | none => .error .missing
    | some entry => .ok (here, entry)
  | here, name :: rest =>
    match disk.entry? here with
    | none => .error .missing
    | some .directory =>
      if name = "" then disk.walkParts follow jump here rest
      else if disk.isClosed here then .error .permissionDenied
      else if name = "." then disk.walkParts follow jump here rest
      else if name = ".." then disk.walkParts follow jump here.dropLast rest
      else if name.utf8ByteSize > nameLimit then .error .nameTooLong
      else match disk.entry? (here ++ [name]) with
        | none => .error .missing
        | some (.link target) =>
          if rest.isEmpty && !follow then .ok (here ++ [name], .link target)
          else jump here target rest
        | some _ => disk.walkParts follow jump (here ++ [name]) rest
    | some _ => .error .notDirectory

/-- Follows parts from a directory, and no more than `links` links on the way. -/
def walk (disk : Disk) (follow : Bool) (links : Nat) (here todo : List String) :
    Except Obstacle (List String × Entry) :=
  match links with
  | 0 => disk.walkParts follow (fun _ _ _ => .error .tooManyLinks) here todo
  | links + 1 =>
    let jump (here : List String) (target : String) (rest : List String) :=
      if target = "" then .error .missing
      else
        let start := if Path.isRooted target then [] else here
        disk.walk follow links start (Path.splitSlashes target ++ rest)
    disk.walkParts follow jump here todo

end Disk

/-- A disk as a program sees it: with a present directory, variables, the home directories of users
by name, and the texts of TOML that nest too deep for the stack, with what is told of them. -/
structure Host where
  disk : Disk
  current : List String
  environment : Environment
  homes : List (String × String)
  tooDeep? : List Char → Option String := fun _ => none

namespace Host

/-- The entry that a path leads to, and where it is. -/
def find (host : Host) (follow : Bool) (path : String) :
    Except AccessError (List String × Entry) :=
  if path.toList.contains '\x00' then .error .nulByte
  else
    let start := if Path.isRooted path then [] else host.current
    let found :=
      if path = "" then .error .missing
      else if path.utf8ByteSize ≥ Disk.pathLimit then .error .nameTooLong
      else host.disk.walk follow Disk.linkLimit start (Path.splitSlashes path)
    match found with
    | .ok found => .ok found
    | .error obstacle => .error (.obstacle obstacle path)

def entry (host : Host) (path : String) : Except AccessError Entry :=
  (host.find true path).map (·.2)

/-- The entry of a path itself, also where it is a link. -/
def linkEntry (host : Host) (path : String) : Except AccessError Entry :=
  (host.find false path).map (·.2)

def read (host : Host) (path : String) : Except AccessError (List UInt8) := do
  let (place, entry) ← host.find true path
  if host.disk.isLocked place then throw (.obstacle .permissionDenied path)
  match entry with
  | .file content => return content
  | _ => throw (.obstacle .isDirectory path)

end Host

end LineFold
