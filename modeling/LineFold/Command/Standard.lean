import LineFold.Command.Arguments

/-! A library for command lines, as far as the command needs one. It checks the values of options
and that there is a file, shows the version and a usage line, and completes the first word for one
kind of shell; it writes an error behind what the command has written to the error output. -/
namespace LineFold.Command

/-- Why arguments do not make a request, or a request is a misuse. -/
inductive UsageError where
  | argument (error : ArgumentError)
  | extraArguments (texts : List String)
  | missingFile
  | wrongInteger (option text : String)
  | wrongFormat (text : String)
  | noSuchFile (path : String)
  | directory (path : String)
  | notReadable (path : String)
  | misuse (cause : Misuse)
  deriving DecidableEq

def optionList (names : List String) : String := String.intercalate ", " names

def ArgumentError.message : ArgumentError → String
  | unknownOption name similar =>
    let hint := match similar with
      | [] => ""
      | [one] => " Did you mean " ++ one ++ "?"
      | several => " (Possible options: " ++ optionList several ++ ")"
    "No such option: " ++ name ++ hint
  | missingValue name => "Option " ++ Text.quoted name ++ " requires an argument."
  | unexpectedValue name => "Option " ++ Text.quoted name ++ " does not take a value."

def invalidValue (name text : String) : String :=
  "Invalid value for " ++ Text.quoted name ++ ": " ++ text

def UsageError.message : UsageError → String
  | argument error => error.message
  | extraArguments texts =>
    "Got unexpected extra argument" ++ (if texts.length = 1 then "" else "s") ++ " (" ++
      String.intercalate " " texts ++ ")"
  | missingFile => "Missing argument 'FILEPATH'."
  | wrongInteger option text =>
    invalidValue option (Text.quoted text ++ " is not a valid integer.")
  | wrongFormat text =>
    invalidValue "--format" (Text.quoted text ++ " is not one of 'text', 'json'.")
  | noSuchFile path => invalidValue "FILEPATH" ("File " ++ Text.quoted path ++ " does not exist.")
  | directory path => invalidValue "FILEPATH" ("File " ++ Text.quoted path ++ " is a directory.")
  | notReadable path => invalidValue "FILEPATH" ("File " ++ Text.quoted path ++ " is not readable.")
  | misuse cause => "Invalid value: " ++ cause.message

/-- The usage is shown with an error, unless it is about the value of an option. -/
def UsageError.showsUsage : UsageError → Bool
  | argument (.missingValue _) | argument (.unexpectedValue _) => false
  | _ => true

def usageText : String :=
  "Usage: cli [OPTIONS] FILEPATH\nTry 'cli --help' for help.\n\n"

def errorLine (message : String) : String := "Error: " ++ message ++ "\n"

def UsageError.report (error : UsageError) (streams : Streams) : Report where
  exitCode := 2
  output := streams.output
  errors := streams.errors ++ (if error.showsUsage then usageText else "") ++ errorLine error.message
  crash := none

def Failure.report (failure : Failure) (streams : Streams) : Report where
  exitCode := 1
  output := streams.output
  errors := streams.errors ++ errorLine failure.message
  crash := none

def Crash.report (crash : Crash) (streams : Streams) : Report where
  exitCode := 1
  output := streams.output
  errors := streams.errors
  crash := some crash

/-- A run that ends well. -/
def Streams.report (streams : Streams) : Report where
  exitCode := 0
  output := streams.output
  errors := streams.errors
  crash := none

def parseFormat? (text : String) : Option Format :=
  if text = "text" then some .text else if text = "json" then some .json else none

/-- Checks the value of a setting. -/
def checkSetting (a : Arguments) (setting : Setting) : Except UsageError Unit :=
  match a.value? setting with
  | none => .ok ()
  | some text =>
    let integer option :=
      if (Text.readInteger? text.toList).isSome then .ok () else .error (.wrongInteger option text)
    match setting with
    | .topOffset => integer "--offset-top"
    | .bottomOffset => integer "--offset-bottom"
    | .format => if (parseFormat? text).isSome then .ok () else .error (.wrongFormat text)
    | _ => .ok ()

/-- A file that is there, is no directory and may be read. -/
def checkFile (host : Host) (path : String) : Except Report Unit :=
  match host.find true path with
  | .ok (_, .directory) => .error ((UsageError.directory path).report {})
  | .ok (place, _) =>
    if host.disk.isLocked place then .error ((UsageError.notReadable path).report {}) else .ok ()
  | .error .nulByte => .error (Crash.nulByte.report {})
  | .error (.obstacle ..) => .error ((UsageError.noSuchFile path).report {})

def usage {α : Type} (error : UsageError) : Except Report α := .error (error.report {})

/-- Checks the arguments: the options in the order in which they were given, then the file. -/
def request (host : Host) (a : Arguments) : Except Report Request := do
  for setting in a.given do
    (checkSetting a setting).mapError fun error => error.report {}
  let file :: extra := a.files | usage .missingFile
  checkFile host file
  unless extra.isEmpty do usage (.extraArguments extra)
  let integer setting := (a.value? setting).bind fun text => Text.readInteger? text.toList
  return {
    file
    opening := a.value? .opening
    closing := a.value? .closing
    openingPattern := a.value? .openingPattern
    closingPattern := a.value? .closingPattern
    topOffset := integer .topOffset
    bottomOffset := integer .bottomOffset
    clamp := (a.switches.filterMap fun s => match s with | .clamp on => some on | _ => none).getLast?
    format := ((a.value? .format).bind parseFormat?).getD .text
    oneBased := a.switches.contains .oneBased
    verbose := a.switches.contains .verbose }

def versionText : String := "cli, version 0.1.0\n"

/-- Help is the usage line alone. -/
def helpText : String := "Usage: cli [OPTIONS] FILEPATH\n"

/-- The options as they are declared, with what is said of each. -/
def describedOptions : List (String × String) :=
  [("--version", "Show the version and exit."),
    ("--begin", "Literal text opening a region"), ("--end", "Literal text closing a region"),
    ("--begin-regex", "Regular expression opening a region"),
    ("--end-regex", "Regular expression closing a region"),
    ("--offset-top", "Adjustment applied to range start lines"),
    ("--offset-bottom", "Adjustment applied to range end lines"),
    ("--clamp", "Clamp ranges to the document"), ("--no-clamp", "Clamp ranges to the document"),
    ("--format", "Output format"), ("--one-based", "Print 1-based line numbers"),
    ("-v", "Report dropped rules and other details"),
    ("--verbose", "Report dropped rules and other details"),
    ("--help", "Show this message and exit.")]

/-- The completions of a word that is the first one behind the name of the command: names of
options for a dash, and files else. -/
def completions (word : String) : List String :=
  if word.toList.head? = some '-' then
    (describedOptions.filter fun option => word.toList.isPrefixOf option.1.toList).map fun option =>
      "plain\n" ++ option.1 ++ "\n" ++ option.2
  else ["file\n" ++ word ++ "\n_"]

/-- The words of a line between blanks; `word` holds the one begun so far, the last character first. -/
def wordsFrom (word : List Char) : List Char → List String
  | [] => [String.ofList word.reverse]
  | c :: rest =>
    if c = ' ' then String.ofList word.reverse :: wordsFrom [] rest else wordsFrom (c :: word) rest

def words (line : String) : List String := (wordsFrom [] line.toList).filter (· ≠ "")

/-- The answer to a shell that asks for completions through variables. Only the one for the first
word is written out, as zsh reads it, and not for the value of an option. -/
def completionReport (environment : Environment) (instruction : String) : Report :=
  let unanswered : Report := { exitCode := 1, output := "", errors := "", crash := none }
  match instruction, environment.lookup "COMP_CWORD", environment.lookup "COMP_WORDS" with
  | "zsh_complete", some "1", some line =>
    let word := (words line).getD 1 ""
    if word.toList.contains '=' then unanswered
    else Streams.report { output := String.intercalate "\n" (completions word) ++ "\n" }
  | _, _, _ => unanswered

def asksCompletion? (environment : Environment) : Option String :=
  (environment.lookup "_CLI_COMPLETE").filter (· ≠ "")

def Notice.report (host : Host) : Notice → Report
  | .version => Streams.report { output := versionText }
  | .help => Streams.report { output := helpText }
  | .completion => completionReport host.environment ((asksCompletion? host.environment).getD "")

def standardDispatch (host : Host) (arguments : List String) : Dispatch :=
  if (asksCompletion? host.environment).isSome then
    .stop (some .completion) (Notice.completion.report host)
  else
    match parse arguments with
    | .error error => .stop none ((UsageError.argument error).report {})
    | .ok a =>
      match a.notices with
      | notice :: _ => .stop (some notice) (notice.report host)
      | [] =>
        match request host a with
        | .error report => .stop none report
        | .ok r => .call r

def standardConclude (result : Except Raised Unit) (streams : Streams) : Report :=
  match result with
  | .ok () => streams.report
  | .error (.misuse cause) => (UsageError.misuse cause).report streams
  | .error (.failure failure) => failure.report streams
  | .error (.crash crash) => crash.report streams

def Library.standard : Library := ⟨standardDispatch, standardConclude⟩

end LineFold.Command
