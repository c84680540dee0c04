import LineFold.Command.Standard

/-! The command as a program. It takes down what a run may look at: the file, what lies on the
way to it, and the configuration files beside and above it. The run itself is pure. It knows no names
of characters, its stack ends nowhere, and it shows of the help no more than the usage. -/
namespace LineFold.Command

/-- The content of a file, if it may be read. -/
def contentOf? (path : String) : IO (Option (List UInt8)) := do
  let place := (← IO.currentDir) / path
  try return some (← IO.FS.readBinFile place).toList catch _ => return none

/-- What is at an absolute path. A link is kept as one to the place where it ends; one that ends
nowhere has no target. Devices are left out. -/
def lookAt (path : String) : IO (Option Entry) := do
  let place := (← IO.currentDir) / path
  try
    match (← place.symlinkMetadata).type with
    | .dir => return some .directory
    | .file => return some (.file ((← contentOf? path).getD []))
    | .symlink =>
      let target ← try pure (← IO.FS.realPath place).toString catch _ => pure ""
      return some (.link target)
    | .other => return none
  catch _ => return none

/-- Whether a directory may be searched. -/
def isSearchable (path : String) : IO Bool := do
  let place := (← IO.currentDir) / path / "."
  try
    discard place.metadata
    return true
  catch _ => return false

/-- What there is at some places. -/
def diskOf (places : List Path) : IO Disk := do
  let mut disk : Disk := { entries := [] }
  for place in places do
    match ← lookAt place.toText with
    | none => pure ()
    | some entry =>
      disk := { disk with entries := disk.entries ++ [(place.parts, entry)] }
      if entry = .directory && !(← isSearchable place.toText) then
        disk := { disk with closed := disk.closed ++ [place.parts] }
      if entry = .file [] && (← contentOf? place.toText).isNone then
        disk := { disk with locked := disk.locked ++ [place.parts] }
  return disk

/-- The path behind all links, if it leads anywhere. -/
def behindLinks (path : Path) : IO (List Path) := do
  let place := (← IO.currentDir) / path.toText
  try return [Path.ofText (← IO.FS.realPath place).toString] catch _ => return []

/-- The absolute paths that a file argument may stand for. -/
def givenPaths (host : Host) (file : String) : List Path :=
  let given := Path.ofText file
  (given :: (host.expandHome given).toList).map fun path =>
    Resolved.absolute ⟨path.isAbsolute, path.parts⟩ host.current

/-- A file, what lies on the way to it, and what may configure it. -/
def placesFor (file : Path) : List Path :=
  file.withParents ++ (Settings.candidates file.parent).map (·.1)

/-- The home directories in a list of users, one on a line with colons between its fields. -/
def homesOf (users : String) : List (String × String) :=
  (Text.splitLines users).filterMap fun line =>
    match line.splitOn ":" with
    | name :: _ :: _ :: _ :: _ :: home :: _ => some (name, home)
    | _ => none

def knownVariables : List String :=
  ["HOME", "EXPLICIT_FOLDING_MAX_FILE_SIZE", "EXPLICIT_FOLDING_MAX_LINE_LENGTH", "_CLI_COMPLETE",
    "COMP_WORDS", "COMP_CWORD"]

/-- What a run for these files may look at. -/
def presentHost (files : List String) : IO Host := do
  let environment ← knownVariables.filterMapM fun name => do
    return (← IO.getEnv name).map fun value => (name, value)
  let users ← try IO.FS.readFile "/etc/passwd" catch _ => pure ""
  let host : Host :=
    { disk := { entries := [] }
      current := (Path.ofText (← IO.currentDir).toString).parts
      environment
      homes := homesOf users }
  let given := Path.ofParts host.current :: files.flatMap (givenPaths host)
  let behind ← given.flatMapM behindLinks
  return { host with disk := ← diskOf ((given ++ behind).flatMap placesFor).eraseDups }

/-- What is told of a fault that was not expected. -/
def crashText (report : Report) : String := (report.crash.map (·.message ++ "\n")).getD ""

/-- Runs the command, prints what it reports and gives its exit code. -/
def perform (arguments : List String) : IO UInt32 := do
  let files := match parse arguments with
    | .ok parsed => parsed.files.take 1
    | .error _ => []
  let report := run .standard .plain (← presentHost files) arguments
  IO.print report.output
  IO.eprint (report.errors ++ crashText report)
  return UInt32.ofNat report.exitCode

end LineFold.Command

def main (arguments : List String) : IO UInt32 := LineFold.Command.perform arguments
