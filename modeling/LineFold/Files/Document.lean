import LineFold.Files.Disk
import LineFold.Files.Given
import LineFold.Text.Lines
import LineFold.Text.Utf8

/-! Documents read from files: regular files of a limited size, as lines of a limited length. -/
namespace LineFold

/-- Why a file is not looked into. -/
inductive FileError where
  | inaccessible (path : Path) (obstacle : Obstacle)
  | link (path : Path)
  | notRegular (path : Path)
  | tooLarge (path : Path) (limit : Int)
  | nulByte
  deriving DecidableEq

def inaccessibleMessage (path : Path) (obstacle : Obstacle) : String :=
  "Error accessing " ++ path.toText ++ ": " ++ obstacle.message path.toText

def FileError.message : FileError → String
  | inaccessible path obstacle => inaccessibleMessage path obstacle
  | link path => "Symlinks are not supported: " ++ path.toText ++ "."
  | notRegular path => path.toText ++ " is not a regular file."
  | tooLarge path limit =>
    path.toText ++ " exceeds the maximum allowed size of " ++ toString limit ++ " bytes."
  | nulByte => nulByteMessage

/-- Why a document cannot be loaded. -/
inductive DocumentError where
  | wrongLimit
  | inaccessible (path : Path) (obstacle : Obstacle)
  | unreadable (path : Path) (obstacle : Obstacle)
  | notUtf8 (path : Path) (fault : Text.Utf8.Fault)
  | longLine (path : Path) (line : LongLine)
  | notEncodable (fault : Unencodable)
  | nulByte
  deriving DecidableEq

def DocumentError.message : DocumentError → String
  | wrongLimit => "\x60max_line_length\x60 override must be a positive integer"
  | inaccessible path obstacle => inaccessibleMessage path obstacle
  | unreadable path obstacle => obstacle.message path.toText
  | notUtf8 path fault => "Invalid UTF-8 sequence in " ++ path.toText ++ ": " ++ fault.message
  | longLine path line =>
    path.toText ++ " contains a line at line " ++ toString line.number ++
      " exceeding the maximum allowed length of " ++ toString line.limit ++ " characters."
  | notEncodable fault => fault.message
  | nulByte => nulByteMessage

/-- Whether a failure is one of documents. The others come from opening the file and are not
expected. -/
def DocumentError.isExpected : DocumentError → Bool
  | notEncodable _ | nulByte => false
  | _ => true

namespace Host

/-- The size of a regular file, which is not to be a link. -/
def fileSize (host : Host) (path : Path) : Except FileError Nat :=
  match host.linkEntry path.toText with
  | .error .nulByte => .error .nulByte
  | .error (.obstacle obstacle _) => .error (.inaccessible path obstacle)
  | .ok (.link _) => .error (.link path)
  | .ok .directory => .error (.notRegular path)
  | .ok (.file content) => .ok content.length

def checkedFileSize (host : Host) (path : Path) (limit : Int) : Except FileError Nat := do
  let size ← host.fileSize path
  if limit < size then throw (.tooLarge path limit)
  return size

def readContent (host : Host) (path : Path) : Except DocumentError (List UInt8) :=
  match host.read path.toText with
  | .ok content => .ok content
  | .error .nulByte => .error .nulByte
  | .error (.obstacle obstacle _) =>
    match obstacle with
    | .missing | .permissionDenied | .notDirectory | .isDirectory => .error (.inaccessible path obstacle)
    | .nameTooLong | .tooManyLinks => .error (.unreadable path obstacle)

/-- The lines of a text file, none of them longer than the limit. Line ends are unified as the file
is read. -/
def readLines (host : Host) (path : Path) (limit : Int) : Except DocumentError (List String) := do
  let content ← host.readContent path
  let text ← (Text.Utf8.decode content).mapError (.notUtf8 path)
  let lines := Text.splitLinesFrom [] (Text.unifyLineEnds text)
  match longLine? limit lines with
  | some line => throw (.longLine path line)
  | none => return lines

/-- The lines of a file. Where no limit is given there is a default one. -/
def document (host : Host) (given : GivenPath) (limit? : Option Int) :
    Except DocumentError (List String) := do
  let limit := limit?.getD defaultMaxLineLength
  if limit ≤ 0 then throw .wrongLimit
  if let some fault := given.unencodable? then throw (.notEncodable fault)
  host.readLines given.path limit

end Host

end LineFold
