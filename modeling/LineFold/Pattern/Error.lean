import LineFold.Pattern.Tree
import LineFold.Text.Quoted

/-! Why a pattern is refused. Most causes stand at a place in the pattern text. Two of them are
not refusals of a rule: they abort whatever was being compiled. -/
namespace LineFold.Pattern

/-- Causes that stand at a place in the pattern. -/
inductive Fault where
  | danglingBackslash
  | badEscape (text : List Char)
  | incompleteEscape (text : List Char)
  | octalTooLarge (text : List Char)
  | missingBrace
  | missingName (what : String)
  | unterminatedName (terminator : Char)
  | unknownCharacterName (name : List Char)
  | openGroupReference
  | sameLookbehindReference
  | invalidGroupReference (index : Nat)
  | badGroupNumber
  | badGroupName (name : List Char)
  | unknownGroupName (name : List Char)
  | redefinedGroup (name : List Char) (index previous : Nat)
  | unterminatedSet
  | badRange (low high : List Char)
  | nothingToRepeat
  | multipleRepeat
  | minAboveMax
  | unexpectedEnd
  | unknownExtension (text : List Char)
  | unterminatedComment
  | unterminatedGroup
  | tooManyBranches
  | lateGlobalFlags
  | localeFlag
  | incompatibleFlags
  | unknownFlag
  | missingAfterFlags
  | missingFlag
  | missingColon
  | globalFlagOn
  | globalFlagOff
  | alphabetFlagOff
  | flagOnAndOff
  | unbalancedParenthesis
  deriving DecidableEq

def Fault.message : Fault → String
  | danglingBackslash => "bad escape (end of pattern)"
  | badEscape text => "bad escape " ++ String.ofList text
  | incompleteEscape text => "incomplete escape " ++ String.ofList text
  | octalTooLarge text =>
    "octal escape value " ++ String.ofList text ++ " outside of range 0-0o377"
  | missingBrace => "missing \x7b"
  | missingName what => "missing " ++ what
  | unterminatedName terminator =>
    "missing " ++ String.ofList [terminator] ++ ", unterminated name"
  | unknownCharacterName name =>
    "undefined character name " ++ String.ofList (Text.quotedChars name)
  | openGroupReference => "cannot refer to an open group"
  | sameLookbehindReference =>
    "cannot refer to group defined in the same lookbehind subpattern"
  | invalidGroupReference index => "invalid group reference " ++ toString index
  | badGroupNumber => "bad group number"
  | badGroupName name => "bad character in group name " ++ String.ofList (Text.quotedChars name)
  | unknownGroupName name => "unknown group name " ++ String.ofList (Text.quotedChars name)
  | redefinedGroup name index previous =>
    "redefinition of group name " ++ String.ofList (Text.quotedChars name) ++ " as group " ++
      toString index ++ "; was group " ++ toString previous
  | unterminatedSet => "unterminated character set"
  | badRange low high =>
    "bad character range " ++ String.ofList low ++ "-" ++ String.ofList high
  | nothingToRepeat => "nothing to repeat"
  | multipleRepeat => "multiple repeat"
  | minAboveMax => "min repeat greater than max repeat"
  | unexpectedEnd => "unexpected end of pattern"
  | unknownExtension text => "unknown extension ?" ++ String.ofList text
  | unterminatedComment => "missing ), unterminated comment"
  | unterminatedGroup => "missing ), unterminated subpattern"
  | tooManyBranches => "conditional backref with more than two branches"
  | lateGlobalFlags => "global flags not at the start of the expression"
  | localeFlag => "bad inline flags: cannot use 'L' flag with a str pattern"
  | incompatibleFlags => "bad inline flags: flags 'a', 'u' and 'L' are incompatible"
  | unknownFlag => "unknown flag"
  | missingAfterFlags => "missing -, : or )"
  | missingFlag => "missing flag"
  | missingColon => "missing :"
  | globalFlagOn => "bad inline flags: cannot turn on global flag"
  | globalFlagOff => "bad inline flags: cannot turn off global flag"
  | alphabetFlagOff => "bad inline flags: cannot turn off flags 'a', 'u' and 'L'"
  | flagOnAndOff => "bad inline flags: flag turned on and off"
  | unbalancedParenthesis => "unbalanced parenthesis"

/-- Causes that drop a rule. What is told of a source that nests too deep comes from where the
stack ends. -/
inductive Refusal where
  | fault (fault : Fault) (position : Nat)
  | variableLookbehind
  | longLookbehind
  | templateLoop (greed : Greed)
  | repeatTooLarge
  | nestedTooDeep (text : String)
  deriving DecidableEq

/-- Line and column of a position, both counted from one. -/
def lineColumn (text : List Char) (position : Nat) : Nat × Nat :=
  let before := text.take position
  (before.count '\n' + 1, (before.reverse.takeWhile (· != '\n')).length + 1)

def Greed.name : Greed → String
  | .greedy => "MAX_REPEAT"
  | .lazy => "MIN_REPEAT"
  | .possessive => "POSSESSIVE_REPEAT"

/-- The text of a refusal of `pattern`; line and column are told where it has several lines. -/
def Refusal.message (pattern : List Char) : Refusal → String
  | fault f position =>
    let place := f.message ++ " at position " ++ toString position
    if pattern.contains '\n' then
      let (line, column) := lineColumn pattern position
      place ++ " (line " ++ toString line ++ ", column " ++ toString column ++ ")"
    else place
  | variableLookbehind => "look-behind requires fixed-width pattern"
  | longLookbehind => "looks too much behind"
  | templateLoop greed => "internal: unsupported template operator " ++ greed.name
  | repeatTooLarge => "the repetition number is too large"
  | nestedTooDeep text => text

/-- Causes that abort the compilation of all rules. -/
inductive Abort where
  | asciiAndUnicode
  | countTooLong (digits : Nat)
  deriving DecidableEq

/-- The text of a number that has more digits than are read. -/
def tooManyDigitsMessage (digits : Nat) : String :=
  "Exceeds the limit (4300 digits) for integer string conversion: value has " ++
    toString digits ++
    " digits; use sys.set_int_max_str_digits() to increase the limit"

def Abort.message : Abort → String
  | asciiAndUnicode => "ASCII and UNICODE flags are incompatible"
  | countTooLong digits => tooManyDigitsMessage digits

/-- Why a pattern does not compile. -/
inductive Failure where
  | refused (refusal : Refusal)
  | aborted (abort : Abort)
  deriving DecidableEq

end LineFold.Pattern
