import LineFold.Pattern.Escape
import LineFold.Text.Integer
import LineFold.Unicode.Identifier

/-! Reading a pattern. Every call of the four functions that read nested parts spends one unit
of fuel, and the fuel given by `read` covers every token twice. -/
namespace LineFold.Pattern

variable (names : CharacterNames)

/-- Group numbers from here on are refused where they stand. -/
def groupLimit : Nat := 1073741823

/-- Counts from here on are refused. -/
def countLimit : Nat := 4294967295

/-- Where a sequence stands: whether blanks and comments are skipped, whether no group is open,
and whether it is the first alternative of the pattern. -/
structure Scope where
  verbose : Bool
  outermost : Bool
  leading : Bool

def isVerboseBlank (c : Char) : Bool := c == ' ' || (9 ≤ c.toNat && c.toNat ≤ 13)

def literalOf (token : Token) : Member :=
  match token with
  | .char c => .code c.toNat
  | .escape c => .code c.toNat
  | .dangling => .code 0x5C

/-- The members of a set that opened at `start`, up to its closing bracket; `read` is reversed. -/
def setMembers (start : Nat) : Nat → List Member → ReadM (List Member)
  | 0, _ => failAt .unterminatedSet start
  | fuel + 1, read => do
    let some this ← next | failAt .unterminatedSet start
    if this = .char ']' ∧ read ≠ [] then return read.reverse
    let low ← match this with
      | .escape c => memberEscape names c
      | token => pure (literalOf token)
    if ← accept '-' then
      let some that ← next | failAt .unterminatedSet start
      if that = .char ']' then return (.code 0x2D :: low :: read).reverse
      let high ← match that with
        | .escape c => memberEscape names c
        | token => pure (literalOf token)
      match low, high with
      | .code a, .code b =>
        if b < a then
          fail (.badRange this.text that.text) (this.text.length + 1 + that.text.length)
        setMembers start fuel (.range a b :: read)
      | _, _ => fail (.badRange this.text that.text) (this.text.length + 1 + that.text.length)
    else setMembers start fuel (low :: read)

/-- A character set whose opening bracket was just read. -/
def setNode : ReadM Node := do
  let cursor ← get
  let negated ← accept '^'
  let members := (← setMembers names (cursor.position - 1) (cursor.rest.length + 1) []).eraseDups
  match members with
  | [.code code] => return if negated then .notLiteral code else .literal code
  | _ => return .set negated members

/-- A count in a brace. -/
def readCount (digits : List Char) : ReadM Nat := do
  if digits.length > Text.integerDigitLimit then throw (.aborted (.countTooLong digits.length))
  if numeral 10 digits ≥ countLimit then throw (.refused .repeatTooLarge)
  return numeral 10 digits

/-- The bounds in a brace that was just read, or none where the brace stands for itself. -/
def braceBounds : ReadM (Option (Nat × Option Nat)) := do
  let cursor ← get
  let low := leadingChars Char.isDigit cursor.rest
  let afterLow := cursor.rest.drop low.length
  let comma := afterLow.head? = some (.char ',')
  let afterComma := if comma then afterLow.drop 1 else afterLow
  let high := if comma then leadingChars Char.isDigit afterComma else []
  let close := afterComma.drop high.length
  if cursor.rest.head? = some (.char '}') || close.head? ≠ some (.char '}') then return none
  skip (cursor.rest.length - close.length + 1)
  let min ← if low.isEmpty then pure 0 else readCount low
  let bound := if comma then high else low
  if bound.isEmpty then return some (min, none)
  let max ← readCount bound
  if max < min then failAt .minAboveMax cursor.position
  return some (min, some max)

def repeatBounds : Char → ReadM (Option (Nat × Option Nat))
  | '?' => return some (0, some 1)
  | '*' => return some (0, none)
  | '+' => return some (1, none)
  | _ => braceBounds

def readGreed : ReadM Greed := do
  if ← accept '?' then return .lazy
  if ← accept '+' then return .possessive
  return .greedy

/-- A repetition sign that was just read, after the items in `read`, the last one first. -/
def repetition (sign : Char) (read : List Node) : ReadM (List Node) := do
  let position := (← get).position - 1
  match ← repeatBounds sign with
  | none => return .literal sign.toNat :: read
  | some (min, max) =>
    match read with
    | [] => failAt .nothingToRepeat position
    | item :: before =>
      if item.isAnchor then failAt .nothingToRepeat position
      if item.isLoop then failAt .multipleRepeat position
      let body := item.plainGroup?.getD (.seq [item])
      return .loop (← readGreed) min max body :: before

def flagOptions? : Char → Option Options
  | 'i' => some { ignoreCase := true }
  | 'L' => some {}
  | 'm' => some { multiLine := true }
  | 's' => some { dotAll := true }
  | 'x' => some { verbose := true }
  | 'a' => some { ascii := true }
  | 't' => some { template := true }
  | 'u' => some { unicode := true }
  | _ => none

def Token.isLetter : Token → Bool
  | .char c => Unicode.isLetter c.toNat
  | _ => false

def Token.isFlag : Token → Bool
  | .char c => (flagOptions? c).isSome
  | _ => false

/-- Flags to turn on, the first of them read, and the sign after them. -/
def flagsOn : Nat → Char → Options → ReadM (Options × Char)
  | 0, _, _ => fail .missingAfterFlags 0
  | fuel + 1, flag, before => do
    if flag = 'L' then fail .localeFlag 0
    let on := before.union ((flagOptions? flag).getD {})
    if (flag = 'a' ∨ flag = 'u') ∧ on.ascii ∧ on.unicode then fail .incompatibleFlags 0
    match ← next with
    | none => fail .missingAfterFlags 0
    | some token =>
      match token with
      | .char c =>
        if c = ')' ∨ c = '-' ∨ c = ':' then return (on, c)
        if token.isFlag then flagsOn fuel c on
        else fail (if token.isLetter then .unknownFlag else .missingAfterFlags) 1
      | _ => fail .missingAfterFlags token.text.length

/-- Flags to turn off, up to the colon; the first of them is read. -/
def flagsOff : Nat → Char → Options → ReadM Options
  | 0, _, _ => fail .missingColon 0
  | fuel + 1, flag, before => do
    if flag = 'a' ∨ flag = 'L' ∨ flag = 'u' then fail .alphabetFlagOff 0
    let off := before.union ((flagOptions? flag).getD {})
    match ← next with
    | none => fail .missingColon 0
    | some token =>
      match token with
      | .char c =>
        if c = ':' then return off
        if token.isFlag then flagsOff fuel c off
        else fail (if token.isLetter then .unknownFlag else .missingColon) 1
      | _ => fail .missingColon token.text.length

def firstFlagOff : ReadM Options := do
  let fuel := (← get).rest.length + 1
  match ← next with
  | none => fail .missingFlag 0
  | some token =>
    match token with
    | .char c =>
      if token.isFlag then flagsOff fuel c {}
      else fail (if token.isLetter then .unknownFlag else .missingFlag) 1
    | _ => fail .missingFlag token.text.length

/-- Inline flags, whose first character was read: none where they are global, and otherwise
those to turn on and off inside the group that follows. -/
def inlineFlags (first : Char) : ReadM (Option (Options × Options)) := do
  let fuel := (← get).rest.length + 1
  let (on, sign) ← if first = '-' then pure ({}, '-') else flagsOn fuel first {}
  if sign = ')' then
    modify fun cursor => { cursor with options := cursor.options.union on }
    return none
  if on.template then fail .globalFlagOn 1
  let off ← if sign = '-' then firstFlagOff else pure {}
  if off.template then fail .globalFlagOff 1
  if on.inter off ≠ .none then fail .flagOnAndOff 1
  return some (on, off)

def checkGroupName (name : List Char) : ReadM Unit := do
  unless Unicode.isIdentifier (name.map Char.toNat) do
    fail (.badGroupName name) (name.length + 1)

/-- Opens a group and gives its number. -/
def openGroup (name : Option (List Char)) : ReadM Nat := do
  let cursor ← get
  let index := cursor.groups
  match name with
  | none => set { cursor with widths := cursor.widths ++ [none] }
  | some name =>
    match cursor.names.lookup name with
    | some previous => fail (.redefinedGroup name index previous) (name.length + 1)
    | none =>
      set { cursor with
        widths := cursor.widths ++ [none]
        names := cursor.names ++ [(name, index)] }
  return index

/-- The width of a closed group. -/
def Cursor.widthOf (cursor : Cursor) (index : Nat) : Width :=
  (((cursor.widths[index - 1]?).getD none)).getD .zero

def closeGroup (index : Nat) (body : Node) : ReadM Unit := do
  modify fun cursor =>
    { cursor with widths := cursor.widths.set (index - 1) (some (body.width cursor.widthOf)) }

/-- A reference by name to a closed group. -/
def namedBackref : ReadM Node := do
  let name ← readUntil ')' "group name"
  checkGroupName name
  let cursor ← get
  match cursor.names.lookup name with
  | none => fail (.unknownGroupName name) (name.length + 1)
  | some index =>
    unless cursor.isClosed index do fail .openGroupReference (name.length + 1)
    checkLookbehind index
    return .backref index

/-- The group a condition asks for: a name that is known, or a number, which may be that of a
group still to come. -/
def conditionGroup : ReadM Nat := do
  let name ← readUntil ')' "group name"
  let cursor ← get
  let index ←
    if Unicode.isIdentifier (name.map Char.toNat) then
      match cursor.names.lookup name with
      | some index => pure index
      | none => fail (.unknownGroupName name) (name.length + 1)
    else match Text.readInteger? name with
      | some (.ofNat index) =>
        if index = 0 then fail .badGroupNumber (name.length + 1)
        if index ≥ groupLimit then fail (.invalidGroupReference index) (name.length + 1)
        if (cursor.pending.lookup index).isNone then
          let place := cursor.position - (name.length + 1)
          set { cursor with pending := cursor.pending ++ [(index, place)] }
        pure index
      | _ => fail (.badGroupName name) (name.length + 1)
  checkLookbehind index
  return index

/-- Takes off the items that all alternatives begin with. -/
def splitCommon : List Node → List (List Node) → List Node × List Node × List (List Node)
  | [], others => ([], [], others)
  | head :: tail, others =>
    if others.all fun items => (items.head?.map head.sameLeaf).getD false then
      let (common, first, rest) := splitCommon tail (others.map List.tail)
      (head :: common, first, rest)
    else ([], head :: tail, others)

/-- The members of an alternative that is one character or one set. -/
def singleMembers? : List Node → Option (List Member)
  | [.literal code] => some [.code code]
  | [.set false members] => some members
  | _ => none

/-- An alternation: what all alternatives begin with stands before it, and alternatives of one
character each become a set. -/
def joinAlternatives (first : List Node) (others : List (List Node)) : Node :=
  if others.isEmpty then .seq first
  else
    let (common, first, others) := splitCommon first others
    match (first :: others).mapM singleMembers? with
    | some members => .seq (common ++ [.set false members.flatten.eraseDups])
    | none => .seq (common ++ [.branch ((first :: others).map .seq)])

/-- Plain groups are replaced by their items. -/
def spliceGroups (items : List Node) : List Node :=
  items.flatMap fun item => (item.plainGroup?.map Node.items).getD [item]

/-- What an opening parenthesis begins. A comment and global flags are no item; after them
blanks and comments are skipped or not. -/
inductive Opening where
  | nothing (verbose : Bool)
  | item (node : Node)
  | look (behind negated : Bool)
  | conditional (index : Nat)
  | capture (name : Option (List Char))
  | scoped (on off : Options)
  | atomic

/-- What stands behind a question mark and a capital P. -/
def namedOpening : ReadM Opening := do
  if ← accept '<' then
    let name ← readUntil '>' "group name"
    checkGroupName name
    return .capture (some name)
  else if ← accept '=' then return .item (← namedBackref)
  else match ← next with
    | none => fail .unexpectedEnd 0
    | some token => fail (.unknownExtension ('P' :: token.text)) (token.text.length + 2)

def lookbehindOpening : ReadM Opening := do
  match ← next with
  | none => fail .unexpectedEnd 0
  | some token =>
    if token = .char '=' then return .look true false
    else if token = .char '!' then return .look true true
    else fail (.unknownExtension ('<' :: token.text)) (token.text.length + 2)

/-- Inline flags; global ones may only stand before everything else. -/
def flagsOpening (start : Nat) (isFirst : Bool) (flag : Char) : ReadM Opening := do
  match ← inlineFlags flag with
  | some (on, off) => return .scoped on off
  | none =>
    unless isFirst do failAt .lateGlobalFlags start
    return .nothing (← get).options.verbose

/-- Reads on from a parenthesis that opened at `start`, up to where its body begins. -/
def opening (start : Nat) (verbose isFirst : Bool) : ReadM Opening := do
  unless ← accept '?' do return .capture none
  match ← next with
  | none => fail .unexpectedEnd 0
  | some token =>
    match token with
    | .char 'P' => namedOpening
    | .char ':' => return .scoped {} {}
    | .char '#' =>
      unless ← skipPast ')' do failAt .unterminatedComment start
      return .nothing verbose
    | .char '=' => return .look false false
    | .char '!' => return .look false true
    | .char '<' => lookbehindOpening
    | .char '(' => return .conditional (← conditionGroup)
    | .char '>' => return .atomic
    | .char c =>
      if token.isFlag || c == '-' then flagsOpening start isFirst c
      else fail (.unknownExtension token.text) 2
    | _ => fail (.unknownExtension token.text) (token.text.length + 1)

/-- The scope inside a group. -/
def Scope.inner (verbose : Bool) : Scope := ⟨verbose, false, false⟩

/-- What comes of a reading that has spent its fuel. -/
def outOfFuel : Failure := .refused (.nestedTooDeep "maximum recursion depth exceeded")

def closeParenthesis (start : Nat) : ReadM Unit := do
  unless ← accept ')' do failAt .unterminatedGroup start

mutual

/-- An alternation, up to a closing parenthesis or the end. -/
def alternatives : Nat → Scope → ReadM Node
  | 0, _ => throw outOfFuel
  | fuel + 1, scope => do
    let first ← sequence fuel scope []
    let others ← moreAlternatives fuel { scope with leading := false }
    return joinAlternatives first others

def moreAlternatives : Nat → Scope → ReadM (List (List Node))
  | 0, _ => throw outOfFuel
  | fuel + 1, scope => do
    if ← accept '|' then
      let cursor ← get
      let verbose := if scope.outermost then cursor.options.verbose else scope.verbose
      let items ← sequence fuel { scope with verbose } []
      let others ← moreAlternatives fuel { scope with verbose }
      return items :: others
    else return []

/-- One alternative; `read` holds its items so far, the last one first. -/
def sequence : Nat → Scope → List Node → ReadM (List Node)
  | 0, _, _ => throw outOfFuel
  | fuel + 1, scope, read => do
    match ← peek with
    | none => return spliceGroups read.reverse
    | some (.escape c) =>
      skip 1
      let item ← escapeNode names c
      sequence fuel scope (item :: read)
    | some .dangling => failAt .danglingBackslash (← get).position
    | some (.char c) =>
      if c = '|' ∨ c = ')' then return spliceGroups read.reverse
      skip 1
      if scope.verbose ∧ isVerboseBlank c then sequence fuel scope read
      else if scope.verbose ∧ c = '#' then
        let _ ← skipPast '\n'
        sequence fuel scope read
      else if c = '[' then
        let item ← setNode names
        sequence fuel scope (item :: read)
      else if c = '*' ∨ c = '+' ∨ c = '?' ∨ c = '{' then
        let items ← repetition c read
        sequence fuel scope items
      else if c = '(' then
        let (item, verbose) ← parenthesis fuel scope read.isEmpty
        sequence fuel { scope with verbose } (item.toList ++ read)
      else if c = '.' then sequence fuel scope (.any :: read)
      else if c = '^' then sequence fuel scope (.anchor .lineStart :: read)
      else if c = '$' then sequence fuel scope (.anchor .lineEnd :: read)
      else sequence fuel scope (.literal c.toNat :: read)

/-- The item that a parenthesis just read begins, if any, and whether blanks and comments are
skipped behind it. -/
def parenthesis : Nat → Scope → Bool → ReadM (Option Node × Bool)
  | 0, _, _ => throw outOfFuel
  | fuel + 1, scope, isFirst => do
    let start := (← get).position - 1
    match ← opening start scope.verbose (scope.leading && isFirst) with
    | .nothing verbose => return (none, verbose)
    | .item node => return (some node, scope.verbose)
    | .look behind negated =>
      let enclosing := (← get).lookbehindFrom
      if behind && enclosing.isNone then
        modify fun cursor => { cursor with lookbehindFrom := some cursor.groups }
      let body ← alternatives fuel (.inner scope.verbose)
      if behind && enclosing.isNone then
        modify fun cursor => { cursor with lookbehindFrom := none }
      closeParenthesis start
      return (some (.look behind negated body), scope.verbose)
    | .conditional index =>
      let yes ← sequence fuel (.inner scope.verbose) []
      let no ← if ← accept '|' then sequence fuel (.inner scope.verbose) [] else pure []
      if (← peek) = some (.char '|') then fail .tooManyBranches 0
      closeParenthesis start
      return (some (.conditional index (.seq yes) (.seq no)), scope.verbose)
    | .capture name =>
      let index ← openGroup name
      let body ← alternatives fuel (.inner scope.verbose)
      closeParenthesis start
      closeGroup index body
      return (some (.group (some index) {} {} body), scope.verbose)
    | .scoped on off =>
      let body ← alternatives fuel (.inner ((scope.verbose || on.verbose) && !off.verbose))
      closeParenthesis start
      return (some (.group none on off body), scope.verbose)
    | .atomic =>
      let body ← alternatives fuel (.inner scope.verbose)
      closeParenthesis start
      return (some (.atomic body), scope.verbose)

end

/-- A pattern that was read: its tree, the options it sets, and the width of each group. -/
structure Parsed where
  tree : Node
  options : Options
  groupWidth : Nat → Width

def readWhole : ReadM Parsed := do
  skip 0
  let fuel := 3 * (← get).rest.length + 3
  let tree ← alternatives names fuel ⟨false, true, true⟩
  let cursor ← get
  if cursor.options.ascii && cursor.options.unicode then throw (.aborted .asciiAndUnicode)
  unless cursor.rest.isEmpty do fail .unbalancedParenthesis 0
  match cursor.pending.find? fun (index, _) => cursor.groups ≤ index with
  | some (index, position) => failAt (.invalidGroupReference index) position
  | none => return ⟨tree, cursor.options, cursor.widthOf⟩

def read (pattern : List Char) : Except Failure Parsed :=
  (readWhole names).run' { rest := tokenize pattern }

end LineFold.Pattern
