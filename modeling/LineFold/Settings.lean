import LineFold.Limits
import LineFold.RuleSet

/-! Settings. They hold whatever values were given; checking them is a step of its own. Keys of
rules may be written in camel case or in snake case, and normalized rules have the first. -/
namespace LineFold

structure Settings where
  rules : Value := .list []
  clamp : Value := .bool true
  maxFileSize : Value := .int defaultMaxFileSize
  maxLineLength : Value := .int defaultMaxLineLength

inductive SettingsError where
  | rulesNotList
  | ruleNotTable (position : Int)
  | unsupportedKey (position : Int) (key : String)
  | clampNotBoolean
  | notInteger (name : String)
  | notPositive (name : String)
  | wrongTable (table file : String)
  deriving DecidableEq

/-- Places in messages are written between backquotes. -/
def backquoted (text : String) : String := "\x60" ++ text ++ "\x60"

def ruleName (position : Int) : String := backquoted ("rules[" ++ toString position ++ "]")

def SettingsError.message : SettingsError → String
  | rulesNotList => backquoted "rules" ++ " must be a list of tables"
  | ruleNotTable position => ruleName position ++ " must be a table"
  | unsupportedKey position key =>
    ruleName position ++ " has unsupported key " ++ backquoted key
  | clampNotBoolean => backquoted "clamp" ++ " must be a boolean"
  | notInteger name => backquoted name ++ " must be an integer"
  | notPositive name => backquoted name ++ " must be a positive integer"
  | wrongTable table file =>
    "Invalid " ++ backquoted ("[" ++ table ++ "]") ++ " settings in " ++ file

namespace Settings

def ruleKeys : List String :=
  ["begin", "end", "beginRegex", "endRegex", "skipLine", "skipLineRegex", "skipBegin",
    "skipBeginRegex", "skipEnd", "skipEndRegex", "offsetTop", "offsetBottom"]

/-- A capital letter becomes an underscore and the small letter. -/
def snakeCase (key : String) : String :=
  String.ofList (key.toList.flatMap fun c => if c.isUpper then ['_', c.toLower] else [c])

/-- The camel case spelling of a rule key. -/
def canonicalKey? (key : String) : Option String :=
  ruleKeys.find? fun canonical => canonical = key || snakeCase canonical = key

def normalizeEntries (position : Int) : List (String × Value) → Entries →
    Except SettingsError Entries
  | [], done => .ok done
  | (key, value) :: rest, done =>
    match canonicalKey? key with
    | none => .error (.unsupportedKey position key)
    | some canonical => normalizeEntries position rest (done.insert canonical value)

/-- A rule with canonical keys. Of two spellings of one key the last value counts. -/
def normalizeRule (rule : Value) (position : Int) : Except SettingsError Entries :=
  match rule with
  | .map entries => normalizeEntries position entries []
  | _ => .error (.ruleNotTable position)

def normalizeRules : List Value → Int → Except SettingsError (List Value)
  | [], _ => .ok []
  | rule :: rest, position => do
    let entries ← normalizeRule rule position
    return .map entries :: (← normalizeRules rest (position + 1))

/-- Settings whose rules are a list of normalized rules. -/
def normalize (settings : Settings) : Except SettingsError Settings := do
  let rules ← match settings.rules with
    | .map entries => pure [Value.map entries]
    | .list rules => pure rules
    | _ => throw .rulesNotList
  return { settings with rules := .list (← normalizeRules rules 0) }

def checkInteger (name : String) (value : Value) : Except SettingsError Int :=
  match value with
  | .int n => .ok n
  | _ => .error (.notInteger name)

def checkPositive (name : String) (value : Int) : Except SettingsError Unit :=
  if value ≤ 0 then .error (.notPositive name) else .ok ()

/-- Checked settings. -/
structure Checked where
  rules : List Value
  clamp : Bool
  maxFileSize : Int
  maxLineLength : Int

/-- The settings with values of the right types; the limits are positive. -/
def check (settings : Settings) : Except SettingsError Checked := do
  let normalized ← settings.normalize
  let .bool clamp := settings.clamp | throw .clampNotBoolean
  let fileSize ← checkInteger "max_file_size" settings.maxFileSize
  let lineLength ← checkInteger "max_line_length" settings.maxLineLength
  checkPositive "max_file_size" fileSize
  checkPositive "max_line_length" lineLength
  let rules := match normalized.rules with
    | .list rules => rules
    | _ => []
  return ⟨rules, clamp, fileSize, lineLength⟩

def validate (settings : Settings) : Except SettingsError Unit := do
  let _ ← settings.check
  return ()

/-- Sets a setting by name; none where there is no such name. -/
def set? (settings : Settings) (name : String) (value : Value) : Option Settings :=
  if name = "rules" then some { settings with rules := value }
  else if name = "clamp" then some { settings with clamp := value }
  else if name = "max_file_size" then some { settings with maxFileSize := value }
  else if name = "max_line_length" then some { settings with maxLineLength := value }
  else none

/-- Sets several settings; the error is the first unknown name. -/
def setAll (settings : Settings) : List (String × Value) → Except String Settings
  | [] => .ok settings
  | (name, value) :: rest =>
    match settings.set? name value with
    | none => .error name
    | some settings => settings.setAll rest

/-- Overrides settings; a null leaves a setting as it is. -/
def override (settings : Settings) (values : Entries) : Except String Settings :=
  settings.setAll (values.filter fun entry => !entry.2.isNull)

def unknownNameMessage (name : String) : String :=
  "FoldingSettings.__init__() got an unexpected keyword argument '" ++ name ++ "'"

/-- The rules of settings, whether these are valid or not. -/
def ruleSet (compiler : Pattern.Compiler) (settings : Settings) : Rule.CompileM RuleSet :=
  RuleSet.compile compiler settings.rules settings.clamp.isTrue

end Settings

end LineFold
