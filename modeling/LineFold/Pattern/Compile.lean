import LineFold.Pattern.Reader
import LineFold.Pattern.Regex

/-! Patterns as they are used: the text and what it matches. A literal becomes a pattern by a
backslash before every character that pattern syntax gives a meaning. Which names characters have
and how deep a pattern may nest is left open: both are given. -/
namespace LineFold

structure Pattern where
  source : String
  regex : Pattern.Regex

namespace Pattern

def foldOf (options : Options) : Fold :=
  if !options.ignoreCase then .exact else if options.ascii then .ascii else .unicode

def anyChar (options : Options) : CharTest :=
  ⟨.exact, true, if options.dotAll then [] else [.code 10]⟩

def Anchor.spot (options : Options) : Anchor → Spot
  | lineStart => if options.multiLine then .lineStart else .textStart
  | lineEnd => if options.multiLine then .lineEnd else .lastLineEnd
  | textStart => .textStart
  | textEnd => .textEnd
  | boundary => .boundary options.ascii
  | nonBoundary => .nonBoundary options.ascii

/-- A loop of single characters is matched without going through its rounds one by one. -/
def Regex.repeated (greed : Greed) (min : Nat) (max : Option Nat) : Regex → Regex
  | .char test => .chars greed min max test
  | body => .loop greed min max body

def Regex.sequence : List Regex → Regex
  | [] => .empty
  | [last] => last
  | first :: rest => .seq first (sequence rest)

def Regex.choice : List Regex → Regex
  | [] => .char ⟨.exact, false, []⟩
  | [last] => last
  | first :: rest => .alt first (choice rest)

/-- A lookbehind that needs more characters is refused. -/
def lookbehindLimit : Nat := 4294967295

def lookbehindWidth (width : Width) : Except Failure Nat :=
  if width.least > lookbehindLimit then .error (.refused .longLookbehind)
  else match width.fixed? with
    | some width => .ok width
    | none => .error (.refused .variableLookbehind)

mutual

/-- What a node matches under the options that hold around it. -/
def Node.regex (groups : Nat → Width) (options : Options) : Node → Except Failure Regex
  | .seq items => return .sequence (← Node.regexes groups options items)
  | .literal code => return .char (.ofCode (foldOf options) false code)
  | .notLiteral code => return .char (.ofCode (foldOf options) true code)
  | .any => return .char (anyChar options)
  | .set negated members =>
    return .char (.ofMembers (foldOf options) options.ascii negated members)
  | .anchor place => return .spot (place.spot options)
  | .branch alternatives => return .choice (← Node.regexes groups options alternatives)
  | .group index on off body => do
    let inner ← body.regex groups (options.scoped on off)
    return match index with
      | some index => .capture index inner
      | none => inner
  | .atomic body => return .atomic (← body.regex groups options)
  | .loop greed min max body => do
    if options.template then throw (.refused (.templateLoop greed))
    return .repeated greed min max (← body.regex groups options)
  | .backref index => return .backref (foldOf options) index
  | .conditional index yes no =>
    return .ifGroup index (← yes.regex groups options) (← no.regex groups options)
  | .look behind negated body => do
    if behind then
      let width ← lookbehindWidth (body.width groups)
      return .behind negated width (← body.regex groups options)
    else return .ahead negated (← body.regex groups options)

def Node.regexes (groups : Nat → Width) (options : Options) :
    List Node → Except Failure (List Regex)
  | [] => return []
  | node :: rest => return (← node.regex groups options) :: (← Node.regexes groups options rest)

end

/-- What compiling depends on besides the source: the names of characters, and for which sources
the stack is too small, with what is then told. -/
structure Compiler where
  named? : CharacterNames
  tooDeep? : String → Option String

/-- One that knows no names of characters, with a stack for every source. -/
def Compiler.plain : Compiler := ⟨fun _ => none, fun _ => none⟩

/-- What is told of a source that nests too deep. Nothing nests without a group. -/
def Compiler.stackFault? (compiler : Compiler) (source : String) : Option String :=
  if (tokenize source.toList).contains (.char '(') then compiler.tooDeep? source else none

def compile (compiler : Compiler) (source : String) : Except Failure Pattern :=
  match compiler.stackFault? source with
  | some text => .error (.refused (.nestedTooDeep text))
  | none => do
    let parsed ← read compiler.named? source.toList
    let regex ← parsed.tree.regex parsed.groupWidth parsed.options
    return ⟨source, regex⟩

def search? (pattern : Pattern) (line : Line) (position : Int) : Option Span :=
  pattern.regex.search? line position

/-- The characters that pattern syntax gives a meaning, blanks among them. -/
def specialChars : List Char :=
  ['(', ')', '[', ']', '\x7b', '\x7d', '?', '*', '+', '-', '|', '^', '$', '\\', '.', '&', '~',
    '#', ' ', '\t', '\n', '\r', '\x0b', '\x0c']

def escapeChars (text : List Char) : List Char :=
  text.flatMap fun c => if specialChars.contains c then ['\\', c] else [c]

/-- The pattern text that matches exactly `text`. -/
def escapeLiteral (text : String) : String := String.ofList (escapeChars text.toList)

end Pattern

end LineFold
