import LineFold.Command.Run
import LineFold.Command.Similar

/-! Arguments of the command line. Options may stand before or behind the file; two dashes end
them. An option that takes a value has it behind an equals sign or as the next argument. -/
namespace LineFold.Command

inductive Setting where
  | opening
  | closing
  | openingPattern
  | closingPattern
  | topOffset
  | bottomOffset
  | format
  deriving DecidableEq

inductive Switch where
  | clamp (on : Bool)
  | oneBased
  | verbose
  deriving DecidableEq

/-- What an option does. -/
inductive Effect where
  | takeValue (setting : Setting)
  | turn (switch : Switch)
  | show (notice : Notice)

def longOptions : List (String × Effect) :=
  [("--version", .show .version), ("--begin", .takeValue .opening), ("--end", .takeValue .closing),
    ("--begin-regex", .takeValue .openingPattern), ("--end-regex", .takeValue .closingPattern),
    ("--offset-top", .takeValue .topOffset), ("--offset-bottom", .takeValue .bottomOffset),
    ("--clamp", .turn (.clamp true)), ("--no-clamp", .turn (.clamp false)),
    ("--format", .takeValue .format), ("--one-based", .turn .oneBased),
    ("--verbose", .turn .verbose), ("--help", .show .help)]

/-- Why arguments are not understood. -/
inductive ArgumentError where
  | unknownOption (name : String) (similar : List String)
  | missingValue (name : String)
  | unexpectedValue (name : String)
  deriving DecidableEq

/-- Arguments taken apart, in the order in which they were given. -/
structure Arguments where
  values : List (Setting × String) := []
  switches : List Switch := []
  notices : List Notice := []
  files : List String := []

def Arguments.addValue (a : Arguments) (setting : Setting) (text : String) : Arguments :=
  { a with values := a.values ++ [(setting, text)] }

def Arguments.addFiles (a : Arguments) (files : List String) : Arguments :=
  { a with files := a.files ++ files }

/-- Carries out an option that takes no value. -/
def Arguments.apply (a : Arguments) : Effect → Arguments
  | .takeValue _ => a
  | .turn switch => { a with switches := a.switches ++ [switch] }
  | .show notice => { a with notices := a.notices ++ [notice] }

/-- The value that a setting was given last. -/
def Arguments.value? (a : Arguments) (setting : Setting) : Option String :=
  a.values.reverse.lookup setting

/-- The settings that were given, each once, in the order of their first values. -/
def Arguments.given (a : Arguments) : List Setting := (a.values.map (·.1)).eraseDups

/-- A long option and the value behind its equals sign. -/
def splitOption (argument : String) : String × Option String :=
  let chars := argument.toList
  let name := chars.takeWhile (· != '=')
  if name.length < chars.length then
    (String.ofList name, some (String.ofList (chars.drop (name.length + 1))))
  else (argument, none)

/-- Options of one letter; the only one there is asks for details. -/
def shortOptions (a : Arguments) : List Char → Except ArgumentError Arguments
  | [] => .ok a
  | c :: rest =>
    if c = 'v' then shortOptions (a.apply (.turn .verbose)) rest
    else .error (.unknownOption (String.ofList ['-', c]) [])

def unknownLong (name : String) : ArgumentError :=
  .unknownOption name (closeNames name (longOptions.map (·.1)))

def parseFrom (a : Arguments) : List String → Except ArgumentError Arguments
  | [] => .ok a
  | argument :: rest =>
    if argument = "--" then .ok (a.addFiles rest)
    else if !argument.startsWith "-" || argument = "-" then parseFrom (a.addFiles [argument]) rest
    else
      let (name, attached) := splitOption argument
      match longOptions.lookup name with
      | none =>
        if argument.startsWith "--" then .error (unknownLong name)
        else match shortOptions a (argument.toList.drop 1) with
          | .ok a => parseFrom a rest
          | .error e => .error e
      | some (.takeValue setting) =>
        match attached, rest with
        | some text, rest => parseFrom (a.addValue setting text) rest
        | none, text :: rest => parseFrom (a.addValue setting text) rest
        | none, [] => .error (.missingValue name)
      | some effect =>
        match attached with
        | some _ => .error (.unexpectedValue name)
        | none => parseFrom (a.apply effect) rest

def parse (arguments : List String) : Except ArgumentError Arguments := parseFrom {} arguments

end LineFold.Command
