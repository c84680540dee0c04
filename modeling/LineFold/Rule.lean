import LineFold.Pattern.Compile
import LineFold.Value.Text

/-! Folding rules. A rule is compiled from a mapping; one that is incomplete or holds a pattern
that is refused gives no rule but a warning. Warnings are kept also where compilation aborts. -/
namespace LineFold

/-- A rule ready for scanning. The index is its identity. -/
structure Rule where
  index : Int
  opening : Pattern
  closing : Pattern
  skipLine : Option Pattern
  skipOpening : Option Pattern
  skipClosing : Option Pattern
  topOffset : Int
  bottomOffset : Int

namespace Rule

/-- Why a rule is dropped, or a configuration ignored. -/
inductive Warning where
  | refusedPattern (source : String) (refusal : Pattern.Refusal)
  | notMapping (spec : Value)
  | missingPair (entries : Entries)
  | wrongOffsets (entries : Entries)
  | notRules (specs : Value)

def Warning.message : Warning → String
  | refusedPattern source refusal =>
    "Invalid folding pattern " ++ Text.quoted source ++ ": " ++ refusal.message source.toList
  | notMapping spec => "Ignoring folding rule " ++ spec.toText ++ ": expected a mapping"
  | missingPair entries =>
    "Ignoring folding rule " ++ (Value.map entries).toText ++ ": missing begin/end pair"
  | wrongOffsets entries =>
    "Ignoring folding rule " ++ (Value.map entries).toText ++ ": offsets must be integers"
  | notRules specs => "Ignoring folding configuration " ++ specs.toText ++ ": expected rules"

/-- Compilation that logs warnings. -/
abbrev CompileM := ExceptT Pattern.Abort (StateM (List Warning))

def warn (warning : Warning) : CompileM Unit := modify (· ++ [warning])

variable (compiler : Pattern.Compiler)

/-- The pattern of a source, or a warning where it is refused. -/
def compileSource (source : String) : CompileM (Option Pattern) :=
  match Pattern.compile compiler source with
  | .ok pattern => return some pattern
  | .error (.refused refusal) => do
    warn (.refusedPattern source refusal)
    return none
  | .error (.aborted abort) => throw abort

def nonEmptyText? : Value → Option String
  | .text value => if value = "" then none else some value
  | _ => none

/-- The sources of the opening and the closing pattern; patterns go before literals. -/
def pairSources (entries : Entries) : Option (String × String) :=
  match nonEmptyText? (entries.find "beginRegex"), nonEmptyText? (entries.find "endRegex") with
  | some opening, some closing => some (opening, closing)
  | _, _ =>
    match nonEmptyText? (entries.find "begin"), nonEmptyText? (entries.find "end") with
    | some opening, some closing =>
      some (Pattern.escapeLiteral opening, Pattern.escapeLiteral closing)
    | _, _ => none

/-- The source of a skip marker, if there is one; a literal goes before a pattern. -/
def skipSource (entries : Entries) (literalKey patternKey : String) : Option String :=
  match nonEmptyText? (entries.find literalKey) with
  | some literal => some (Pattern.escapeLiteral literal)
  | none => nonEmptyText? (entries.find patternKey)

def offset? : Value → Option Int
  | .null => some 0
  | .int value => some value
  | _ => none

/-- A skip marker, if any; none where its source is refused. -/
def compileSkip : Option String → CompileM (Option (Option Pattern))
  | none => return some none
  | some source => return (← compileSource compiler source).map some

def compileSkips (entries : Entries) :
    CompileM (Option (Option Pattern × Option Pattern × Option Pattern)) := do
  let some line ← compileSkip compiler (skipSource entries "skipLine" "skipLineRegex") | return none
  let some opening ← compileSkip compiler (skipSource entries "skipBegin" "skipBeginRegex") | return none
  let some closing ← compileSkip compiler (skipSource entries "skipEnd" "skipEndRegex") | return none
  return some (line, opening, closing)

def compileEntries (entries : Entries) (index : Int) : CompileM (Option Rule) := do
  let some (openingSource, closingSource) := pairSources entries
    | warn (.missingPair entries); return none
  let some (topOffset, bottomOffset) :=
      (offset? (entries.find "offsetTop")).bind fun top =>
        (offset? (entries.find "offsetBottom")).map fun bottom => (top, bottom)
    | warn (.wrongOffsets entries); return none
  let opening? ← compileSource compiler openingSource
  let closing? ← compileSource compiler closingSource
  match opening?, closing? with
  | some opening, some closing =>
    let some (skipLine, skipOpening, skipClosing) ← compileSkips compiler entries | return none
    return some {
      index, opening, closing, skipLine, skipOpening, skipClosing, topOffset, bottomOffset }
  | _, _ => return none

/-- The rule of a specification, or none after a warning. -/
def compile (spec : Value) (index : Int) : CompileM (Option Rule) :=
  match spec with
  | .map entries => compileEntries compiler entries index
  | _ => do
    warn (.notMapping spec)
    return none

/-- The rules of a list of specifications, numbered on from `index` without gaps. -/
def compileAll : List Value → Int → CompileM (List Rule)
  | [], _ => return []
  | spec :: rest, index => do
    match ← compile compiler spec index with
    | some rule => return rule :: (← compileAll rest (index + 1))
    | none => compileAll rest index

/-- The specifications that a configuration holds: one mapping, or the items of a list. The
items of a text are its characters. -/
def specifications? : Value → Option (List Value)
  | .null => some []
  | .map entries => some [.map entries]
  | .list specs => some specs
  | .text value => some (value.toList.map fun c => .text (String.singleton c))
  | _ => none

def compileConfiguration (configuration : Value) : CompileM (List Rule) :=
  match specifications? configuration with
  | some specs => compileAll compiler specs 0
  | none => do
    warn (.notRules configuration)
    return []

/-- Runs a compilation: what it gave, and the warnings on the way. -/
def logged {α : Type} (m : CompileM α) : Except Pattern.Abort α × List Warning := m.run.run []

end Rule

end LineFold
