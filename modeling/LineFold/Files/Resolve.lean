import LineFold.Files.Disk

/-! Resolving paths. Parts are followed one by one and links are replaced by their targets; two
dots take away the part before them, whatever that is. A resolved path that is not strict may go
on behind the last file there is. -/
namespace LineFold

inductive ResolveError where
  | access (error : AccessError)
  | linkLoop (path : String)
  deriving DecidableEq

/-- Too many links on the way to a part are taken for a loop. -/
def ResolveError.ofAccess : AccessError → ResolveError
  | .obstacle .tooManyLinks path => linkLoop path
  | error => access error

/-- A path as far as it is resolved. -/
structure Resolved where
  isAbsolute : Bool
  parts : List String
  deriving DecidableEq

namespace Resolved

def toText (path : Resolved) : String :=
  (if path.isAbsolute then "/" else "") ++ Path.joinParts path.parts

def child (path : Resolved) (name : String) : Resolved := { path with parts := path.parts ++ [name] }

/-- Two dots: a relative path that cannot get shorter keeps them. -/
def up (path : Resolved) : Resolved :=
  match path.isAbsolute, path.parts.getLast? with
  | false, none => { path with parts := [".."] }
  | _, some ".." => { path with parts := path.parts ++ [".."] }
  | _, _ => { path with parts := path.parts.dropLast }

/-- A path and parts behind it that were not resolved. -/
def followedBy (path : Resolved) (rest : List String) : Resolved :=
  { path with parts := path.parts ++ rest }

/-- The parts of an absolute path without dots; two dots take away a part. -/
def normalParts (parts : List String) : List String := parts.foldl Path.enter []

/-- The absolute path, seen from the directory `current`. -/
def absolute (path : Resolved) (current : List String) : Path :=
  Path.ofParts (normalParts (if path.isAbsolute then path.parts else current ++ path.parts))

end Resolved

/-- Links that were met: those being resolved have no result yet. -/
abbrev MetLinks := List (String × Option Resolved)

namespace Host

/-- How many links may be resolved one inside the other. -/
def linkDepth : Nat := 1000

/-- What comes of a loop of links at `path`: where `strict` asks for an error, the one of looking
there, and else the path as it is, with what was to follow. -/
def endedByLoop (host : Host) (strict : Bool) (path : Resolved) (rest : List String)
    (met : MetLinks) : Except ResolveError (Resolved × Bool × MetLinks) :=
  if strict then
    match host.entry path.toText with
    | .error error => .error (.ofAccess error)
    | .ok _ => .error (.linkLoop path.toText)
  else .ok (path.followedBy rest, false, met)

/-- Resolves parts behind `done`. The result is false if a loop of links ended it early. The
target of a link is resolved by `inner`, if there may be another link inside. -/
def resolveWith (host : Host) (strict : Bool)
    (inner : Option
      (Resolved → List String → MetLinks → Except ResolveError (Resolved × Bool × MetLinks))) :
    Resolved → List String → MetLinks → Except ResolveError (Resolved × Bool × MetLinks)
  | done, [], met => .ok (done, true, met)
  | done, name :: rest, met =>
    if name = "" ∨ name = "." then host.resolveWith strict inner done rest met
    else if name = ".." then host.resolveWith strict inner done.up rest met
    else
      let next := done.child name
      match host.linkEntry next.toText with
      | .error .nulByte => .error (.access .nulByte)
      | .error (.obstacle obstacle path) =>
        if strict then .error (.ofAccess (.obstacle obstacle path))
        else host.resolveWith strict inner next rest met
      | .ok (.link target) =>
        match met.lookup next.toText with
        | some (some resolved) => host.resolveWith strict inner resolved rest met
        | some none => host.endedByLoop strict next rest met
        | none =>
          match inner with
          | none => host.endedByLoop strict next rest met
          | some inside =>
            let start := if Path.isRooted target then ⟨true, []⟩ else done
            match inside start (Path.splitSlashes target) ((next.toText, none) :: met) with
            | .error e => .error e
            | .ok (resolved, false, met) => .ok (resolved.followedBy rest, false, met)
            | .ok (resolved, true, met) =>
              host.resolveWith strict inner resolved rest ((next.toText, some resolved) :: met)
      | .ok _ => host.resolveWith strict inner next rest met

/-- Resolves parts behind a path, with no more than `depth` links one inside the other. -/
def resolveParts (host : Host) (strict : Bool) :
    Nat → Resolved → List String → MetLinks → Except ResolveError (Resolved × Bool × MetLinks)
  | 0 => host.resolveWith strict none
  | depth + 1 => host.resolveWith strict (some (host.resolveParts strict depth))

def resolve (host : Host) (strict : Bool) (path : Path) : Except ResolveError Path := do
  let start : Resolved := ⟨path.isAbsolute, []⟩
  let (resolved, _) ← host.resolveParts strict linkDepth start (Path.splitSlashes path.toText) []
  return resolved.absolute host.current

/-- The resolved path, which need not exist, but may not lead into a loop of links. -/
def resolveLoosely (host : Host) (path : Path) : Except ResolveError Path := do
  let resolved ← host.resolve false path
  match host.entry resolved.toText with
  | .error (.obstacle .tooManyLinks file) => throw (.linkLoop file)
  | _ => return resolved

/-- The path of a link, or of something below one. -/
def leadsThroughLink (host : Host) (path : Path) : Bool :=
  path.withParents.any fun candidate =>
    match host.linkEntry candidate.toText with
    | .ok (.link _) => true
    | _ => false

/-- The home directory that a part with a tilde at the front stands for. -/
def home? (host : Host) (part : String) : Option String :=
  let named :=
    if part = "~" then (host.environment.lookup "HOME").or (host.homes.lookup "")
    else host.homes.lookup (String.ofList (part.toList.drop 1))
  match named with
  | none => none
  | some home =>
    let home := String.ofList (home.toList.reverse.dropWhile (· == '/')).reverse
    if Path.hasTilde home then none else some (if home = "" then "/" else home)

/-- Replaces a tilde at the front by a home directory; none where that is not known. -/
def expandHome (host : Host) (path : Path) : Option Path :=
  match path.isAbsolute, path.parts with
  | false, part :: rest =>
    if Path.hasTilde part then
      (host.home? part).map fun home => (Path.ofText home).join ⟨"", rest⟩
    else some path
  | _, _ => some path

end Host

/-- Why a path given by a user is refused. -/
inductive LocateError where
  | unknownHome
  | throughLink (path : Path)
  | missing (path : Path)
  | unresolvable (path : Path) (obstacle : Obstacle) (file : String)
  | notRegular (path : Path)
  | outside (path base : Path)
  | nulByte
  | linkLoop (file : String)
  | unreadable (obstacle : Obstacle) (file : String)
  deriving DecidableEq

def linkLoopMessage (file : String) : String := "Symlink loop from " ++ Text.quoted file

def LocateError.message : LocateError → String
  | unknownHome => "Could not determine home directory."
  | throughLink path => "Symlinks are not supported for security reasons: " ++ path.toText
  | missing path => path.toText ++ " does not exist."
  | unresolvable path obstacle file =>
    "Error resolving " ++ path.toText ++ ": " ++ obstacle.message file
  | notRegular path => path.toText ++ " is not a regular file."
  | outside path base =>
    path.toText ++ " is outside of the working directory " ++ base.toText ++ "."
  | nulByte => nulByteMessage
  | linkLoop file => linkLoopMessage file
  | unreadable obstacle file => obstacle.message file

/-- Whether a failure is a refusal of the path. The others are not expected. -/
def LocateError.isRefusal : LocateError → Bool
  | unknownHome | linkLoop _ | unreadable .. => false
  | _ => true

/-- Obstacles that only say that there is no such file. -/
def Obstacle.meansAbsent : Obstacle → Bool
  | missing | notDirectory | tooManyLinks => true
  | _ => false

def LocateError.ofResolve (path : Path) : ResolveError → LocateError
  | .access .nulByte => nulByte
  | .access (.obstacle .missing _) => missing path
  | .access (.obstacle obstacle file) => unresolvable path obstacle file
  | .linkLoop file => linkLoop file

namespace Host

/-- Whether a path leads to a regular file. -/
def isFile (host : Host) (path : String) : Except LocateError Bool :=
  match host.entry path with
  | .ok (.file _) => .ok true
  | .ok _ | .error .nulByte => .ok false
  | .error (.obstacle obstacle file) =>
    if obstacle.meansAbsent then .ok false else .error (.unreadable obstacle file)

/-- The absolute path of a regular file below `base` that no link leads to. -/
def locate (host : Host) (given : String) (base : Path) : Except LocateError Path := do
  let given := Path.ofText given
  let some path := host.expandHome given
    | throw (if (given.parts.headD "").toList.contains '\x00' then .nulByte else .unknownHome)
  if host.leadsThroughLink path then throw (.throughLink path)
  let resolved ← (host.resolve true path).mapError (LocateError.ofResolve path)
  unless ← host.isFile resolved.toText do throw (.notRegular resolved)
  unless resolved.isBelow base do throw (.outside resolved base)
  return resolved

end Host

end LineFold
