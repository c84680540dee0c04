import LineFold.Files.Document
import LineFold.Range.Text
import LineFold.Settings.Load

/-! The command: it reads the settings for a file and prints the ranges of its lines. A library for
command lines stands around it, which is not part of it: it makes a request of the arguments, or
ends the run itself, and it tells how the command has ended. What the command does is a function of
the request and of what there is on the disk. -/
namespace LineFold.Command

/-- What the command is called with. -/
structure Request where
  file : String
  opening : Option String
  closing : Option String
  openingPattern : Option String
  closingPattern : Option String
  topOffset : Option Int
  bottomOffset : Option Int
  clamp : Option Bool
  format : Format
  oneBased : Bool
  verbose : Bool
  deriving DecidableEq

/-- Why the command is used wrongly. -/
inductive Misuse where
  | refusedPath (error : LocateError)
  | halfPair (first second : String)
  | loneOffset
  | settings (error : SettingsError)
  deriving DecidableEq

/-- Why the command fails although it is used rightly. -/
inductive Failure where
  | limit (error : LimitError)
  | file (error : FileError)
  | document (error : DocumentError)
  deriving DecidableEq

/-- Faults that the command does not expect. -/
inductive Crash where
  | nulByte
  | path (error : LocateError)
  | settings (error : LoadError)
  | unknownSetting (name : String)
  | document (error : DocumentError)
  | abort (abort : Pattern.Abort)
  | longNumber
  deriving DecidableEq

inductive Raised where
  | misuse (misuse : Misuse)
  | failure (failure : Failure)
  | crash (crash : Crash)
  deriving DecidableEq

def Misuse.message : Misuse → String
  | refusedPath error => error.message
  | halfPair first second => first ++ " and " ++ second ++ " must be given together"
  | loneOffset => "offsets require --begin/--end or --begin-regex/--end-regex"
  | settings error => error.message

def Failure.message : Failure → String
  | limit error => error.message
  | file error => error.message
  | document error => error.message

def Crash.message : Crash → String
  | nulByte => nulByteMessage
  | path error => error.message
  | settings error => error.message
  | unknownSetting name => Settings.unknownNameMessage name
  | document error => error.message
  | abort a => a.message
  | longNumber => Text.unwritableMessage

/-- What has been written to the standard output and to the error output. -/
structure Streams where
  output : String := ""
  errors : String := ""
  deriving DecidableEq

/-- A part of the command: it may write, and it may end the command by what it raises. -/
abbrev Action := ExceptT Raised (StateM Streams)

def print (text : String) : Action Unit :=
  modify fun streams => { streams with output := streams.output ++ text }

def printErrors (lines : List String) : Action Unit :=
  modify fun streams => { streams with errors := streams.errors ++ String.join (lines.map (· ++ "\n")) }

/-- A part that writes nothing. -/
def check {α : Type} (result : Except Raised α) : Action α := ExceptT.mk (pure result)

/-- The offsets that are given. -/
def offsets (r : Request) : Entries :=
  let optional (key : String) (value : Option Int) : Entries :=
    (value.map fun n => (key, Value.int n)).toList
  optional "offsetTop" r.topOffset ++ optional "offsetBottom" r.bottomOffset

/-- Two options that go together: their values under the keys of a rule, or none of them. -/
def pairOf (options keys : String × String) :
    Option String → Option String → Except Misuse (Option Entries)
  | none, none => .ok none
  | some opening, some closing => .ok (some [(keys.1, .text opening), (keys.2, .text closing)])
  | _, _ => .error (.halfPair options.1 options.2)

/-- The rule that the options describe, if they do; patterns go before literals. -/
def ruleOf (r : Request) : Except Misuse (Option Entries) := do
  let patterns ← pairOf ("--begin-regex", "--end-regex") ("beginRegex", "endRegex")
    r.openingPattern r.closingPattern
  if let some pair := patterns then return some (pair ++ offsets r)
  let literals ← pairOf ("--begin", "--end") ("begin", "end") r.opening r.closing
  if let some pair := literals then return some (pair ++ offsets r)
  if (offsets r).isEmpty then return none else throw .loneOffset

/-- What the options override. -/
def overrides (rule : Option Entries) (clamp : Option Bool) : Entries :=
  [("rules", (rule.map fun entries => Value.list [.map entries]).getD .null),
    ("clamp", (clamp.map Value.bool).getD .null)]

def raisedByBase : ResolveError → Raised
  | .access .nulByte => .crash .nulByte
  | .access (.obstacle obstacle file) => .crash (.path (.unreadable obstacle file))
  | .linkLoop file => .crash (.path (.linkLoop file))

def raisedByPath (error : LocateError) : Raised :=
  if error.isRefusal then .misuse (.refusedPath error) else .crash (.path error)

def raisedBySettings : Settings.BuildError → Raised
  | .load (.settings error) => .misuse (.settings error)
  | .load error => .crash (.settings error)
  | .unknownName name => .crash (.unknownSetting name)

def raisedByFile : FileError → Raised
  | .nulByte => .crash .nulByte
  | error => .failure (.file error)

def raisedByDocument (error : DocumentError) : Raised :=
  if error.isExpected then .failure (.document error) else .crash (.document error)

/-- Everything before the scan: the settings and the lines of the file. -/
def prepare (host : Host) (r : Request) : Except Raised (Settings.Checked × List String) := do
  let base ← (host.resolveLoosely (Path.ofParts host.current)).mapError raisedByBase
  let path ← (host.locate r.file base).mapError raisedByPath
  let rule ← (ruleOf r).mapError .misuse
  let (_, settings) ←
    (Settings.build host path.parent (overrides rule r.clamp)).mapError raisedBySettings
  let limit (found : Except LimitError Int) : Except Raised Int :=
    found.mapError fun error => .failure (.limit error)
  let fileLimit ← limit (maxFileSize host.environment settings.maxFileSize)
  let lineLimit ← limit (maxLineLength host.environment settings.maxLineLength)
  let _ ← (host.checkedFileSize path fileLimit).mapError raisedByFile
  let lines ← (host.document path.given (some lineLimit)).mapError raisedByDocument
  return (settings, lines)

def noRulesWarning : String :=
  "Warning: none of the configured folding rules could be compiled"

/-- Compiles the rules, and tells what was dropped on the way. -/
def provide (compiler : Pattern.Compiler) (r : Request) (settings : Settings.Checked) :
    Action RuleSet := do
  let (compiled, warnings) :=
    Rule.logged (RuleSet.compile compiler (.list settings.rules) settings.clamp)
  printErrors (warnings.map fun warning => "WARNING: " ++ warning.message)
  let set ← check (compiled.mapError fun abort => .crash (.abort abort))
  printErrors (if r.verbose then ["DEBUG: " ++ set.report] else [])
  printErrors (if set.rules.isEmpty && !settings.rules.isEmpty then [noRulesWarning] else [])
  return set

/-- The text of the ranges of lines. -/
def render (r : Request) (set : RuleSet) (lines : List String) : Except Raised String :=
  match Range.render? r.format r.oneBased (set.ranges (lines.map Pattern.Line.ofText)) with
  | some text => .ok text
  | none => .error (.crash .longNumber)

/-- All but the output: the text that is to be printed. -/
def rangesText (compiler : Pattern.Compiler) (host : Host) (r : Request) : Action String := do
  let (settings, lines) ← check (prepare host r)
  let set ← provide compiler r settings
  check (render r set lines)

/-- The command itself. -/
def execute (compiler : Pattern.Compiler) (host : Host) (r : Request) : Action Unit := do
  let text ← rangesText compiler host r
  print text

/-- What may be asked for in place of a scan. -/
inductive Notice where
  | version
  | help
  | completion
  deriving DecidableEq

/-- How a run ends: the code, what it has written, and a fault that was not expected. -/
structure Report where
  exitCode : Nat
  output : String
  errors : String
  crash : Option Crash
  deriving DecidableEq

/-- What a library makes of arguments: a call of the command, or an end of the run, which a notice
may have been asked for. -/
inductive Dispatch where
  | call (request : Request)
  | stop (asked : Option Notice) (report : Report)
  deriving DecidableEq

/-- A library for command lines. -/
structure Library where
  dispatch : Host → List String → Dispatch
  conclude : Except Raised Unit → Streams → Report

/-- What is relied on. Arguments that are wrong end the run with an error, without any output. A
command that returns has succeeded, one that raises has not, and nothing is added to what it has
printed. -/
structure Library.Lawful (library : Library) : Prop where
  stop : ∀ host arguments report, library.dispatch host arguments = .stop none report →
    report.exitCode ≠ 0 ∧ report.output = ""
  success : ∀ streams, (library.conclude (.ok ()) streams).exitCode = 0 ∧
    (library.conclude (.ok ()) streams).output = streams.output
  failure : ∀ raised streams, (library.conclude (.error raised) streams).exitCode ≠ 0 ∧
    (library.conclude (.error raised) streams).output = streams.output

/-- A run of the command. -/
def run (library : Library) (compiler : Pattern.Compiler) (host : Host) (arguments : List String) :
    Report :=
  match library.dispatch host arguments with
  | .stop _ report => report
  | .call r =>
    let (result, streams) := (execute compiler host r).run.run {}
    library.conclude result streams

end LineFold.Command
