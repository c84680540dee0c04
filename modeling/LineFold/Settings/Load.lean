import LineFold.Files.Resolve
import LineFold.Settings
import LineFold.Toml.Document

/-! Settings from configuration files. The directory and those above it are searched, the
nearest first; in each of them a project file goes before a file of the tool's own. A file that
may not be read or is no TOML is passed over, but one that is not UTF-8 is not. How deep TOML may
nest is left open. -/
namespace LineFold

inductive LoadError where
  | settings (error : SettingsError)
  | notUtf8 (fault : Text.Utf8.Fault)
  | longInteger (digits : Nat)
  | tooDeep (text : String)
  | nulByte
  | linkLoop (file : String)
  | unreadable (obstacle : Obstacle) (file : String)
  deriving DecidableEq

def LoadError.message : LoadError → String
  | settings error => error.message
  | notUtf8 fault => fault.message
  | longInteger digits => Pattern.tooManyDigitsMessage digits
  | tooDeep text => text
  | nulByte => nulByteMessage
  | linkLoop file => linkLoopMessage file
  | unreadable obstacle file => obstacle.message file

def LoadError.ofResolve : ResolveError → LoadError
  | .access .nulByte => nulByte
  | .access (.obstacle obstacle file) => unreadable obstacle file
  | .linkLoop file => linkLoop file

/-- The value at a path of tables, if all of them are there. -/
def Entries.valueAt? : List String → Entries → Option Value
  | [], entries => some (.map entries)
  | [key], entries => entries.get? key
  | key :: path, entries =>
    match entries.get? key with
    | some (.map inner) => valueAt? path inner
    | _ => none

namespace Settings

def projectTable : List String := ["tool", "explicit-folding"]

def ownTable : List String := ["explicit-folding"]

/-- The files to look for in a directory, and in each the tables that may hold settings. -/
def sources : List (String × List (List String)) :=
  [("pyproject.toml", [projectTable]), (".explicit-folding.toml", [ownTable, projectTable])]

/-- The settings that a table holds. -/
def ofTable (table : List String) (file : Path) (value : Value) : Except SettingsError Settings :=
  let wrong := SettingsError.wrongTable (String.intercalate "." table) file.toText
  match value with
  | .map entries => (({} : Settings).setAll entries).mapError fun _ => wrong
  | _ => .error wrong

/-- The settings of the first table that a document has. -/
def ofDocument? (file : Path) (document : Entries) :
    List (List String) → Option (Except SettingsError Settings)
  | [] => none
  | table :: rest =>
    match document.valueAt? table with
    | some value => some (ofTable table file value)
    | none => ofDocument? file document rest

/-- The document that bytes hold; none where they are no TOML. -/
def parseDocument (host : Host) (content : List UInt8) : Except LoadError (Option Entries) :=
  match Text.Utf8.decode content with
  | .error fault => .error (.notUtf8 fault)
  | .ok text =>
    match host.tooDeep? text with
    | some told => .error (.tooDeep told)
    | none =>
      match Toml.readText text with
      | .ok document => .ok (some document)
      | .error .malformed => .ok none
      | .error (.longInteger digits) => .error (.longInteger digits)

/-- The document in a file; none where there is no such file, where it may not be read, or where
it is no TOML. -/
def readDocument (host : Host) (file : Path) : Except LoadError (Option Entries) :=
  match host.entry file.toText with
  | .ok _ =>
    match host.read file.toText with
    | .ok content => parseDocument host content
    | .error _ => .ok none
  | .error .nulByte => .ok none
  | .error (.obstacle obstacle path) =>
    if obstacle.meansAbsent then .ok none else .error (.unreadable obstacle path)

/-- The settings of one file, if it has any; its rules are normalized. -/
def ofFile (host : Host) (file : Path) (tables : List (List String)) :
    Except LoadError (Option Settings) := do
  match ← readDocument host file with
  | none => return none
  | some document =>
    match ofDocument? file document tables with
    | none => return none
    | some found =>
      let settings ← (found.bind normalize).mapError .settings
      return some settings

/-- The first settings among files. -/
def firstOf (host : Host) : List (Path × List (List String)) → Except LoadError (Option Settings)
  | [] => .ok none
  | (file, tables) :: rest => do
    match ← ofFile host file tables with
    | some settings => return some settings
    | none => firstOf host rest

/-- All files that may hold settings for a directory, the nearest first. -/
def candidates (directory : Path) : List (Path × List (List String)) :=
  directory.withParents.flatMap fun above =>
    sources.map fun (name, tables) => (above.child name, tables)

/-- The settings for a directory, or the default ones. -/
def load (host : Host) (directory : Path) : Except LoadError Settings := do
  let directory ← (host.resolveLoosely directory).mapError LoadError.ofResolve
  return (← firstOf host (candidates directory)).getD {}

/-- Why settings cannot be built: they cannot be loaded, or an override has no such setting. -/
inductive BuildError where
  | load (error : LoadError)
  | unknownName (name : String)
  deriving DecidableEq

/-- Loads, overrides and checks settings. -/
def build (host : Host) (directory : Path) (overrides : Entries) :
    Except BuildError (Settings × Checked) := do
  let loaded ← (load host directory).mapError .load
  let settings ← (loaded.override overrides).mapError .unknownName
  let settings ← settings.normalize.mapError fun e => .load (.settings e)
  let checked ← settings.check.mapError fun e => .load (.settings e)
  return (settings, checked)

end Settings

end LineFold
