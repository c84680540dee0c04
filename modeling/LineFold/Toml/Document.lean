import LineFold.Text.Utf8
import LineFold.Toml.Lexeme

/-! A TOML document as one mapping. A table may be declared once, and what an inline value holds
is never added to. -/
namespace LineFold

/-- Changes the mapping behind a path, whose missing parts are made. With `throughLists` the last
item of a list stands for it. None where a part is no mapping, or where `change` gives none. -/
def Entries.updateAt (throughLists : Bool) (change : Entries → Option Entries) :
    List String → Entries → Option Entries
  | [], entries => change entries
  | key :: path, entries =>
    match entries.get? key with
    | none =>
      (updateAt throughLists change path []).map fun inner => entries.insert key (.map inner)
    | some (.map inner) =>
      (updateAt throughLists change path inner).map fun inner => entries.insert key (.map inner)
    | some (.list values) =>
      match throughLists, values.getLast? with
      | true, some (.map inner) =>
        (updateAt throughLists change path inner).map fun inner =>
          entries.insert key (.list (values.dropLast ++ [.map inner]))
      | _, _ => none
    | some _ => none

/-- Adds a value under a new key. -/
def Entries.add? (key : String) (value : Value) (entries : Entries) : Option Entries :=
  if (entries.get? key).isSome then none else some (entries.insert key value)

namespace Toml

/-- Splits a key into the path to its table and its last part. -/
def splitKey (key : Key) : List String × String := (key.dropLast, key.getLast?.getD "")

def isFrozen (frozen : List Key) (key : Key) : Bool := frozen.any (·.isPrefixOf key)

def holdsValues : Value → Bool
  | .map _ | .list _ => true
  | _ => false

def ofOption {α : Type} : Option α → Reader α
  | some x => return x
  | none => malformed

mutual

def value : Nat → Reader Value
  | 0 => malformed
  | fuel + 1 => do
    match ← peek with
    | some '"' | some '\'' => return .text (String.ofList (← stringValue))
    | some '[' =>
      expect "["
      return .list (← arrayItems fuel)
    | some '\x7b' =>
      expect "\x7b"
      skipBlanks
      if ← accept "\x7d" then return .map []
      return .map (← tableItems fuel [] [])
    | _ =>
      if ← accept "true" then return .bool true
      if ← accept "false" then return .bool false
      scalar

/-- The items of an array up to its closing bracket; the last may have a comma behind it. -/
def arrayItems : Nat → Reader (List Value)
  | 0 => malformed
  | fuel + 1 => do
    skipAllLines
    if ← accept "]" then return []
    let item ← value fuel
    skipAllLines
    if ← accept "]" then return [item]
    expect ","
    return item :: (← arrayItems fuel)

/-- The entries of an inline table up to its closing brace. -/
def tableItems : Nat → List Key → Entries → Reader Entries
  | 0, _, _ => malformed
  | fuel + 1, frozen, done => do
    let key ← key
    expect "="
    skipBlanks
    let item ← value fuel
    if isFrozen frozen key then malformed
    let (path, last) := splitKey key
    let done ← ofOption (done.updateAt false (Entries.add? last item) path)
    skipBlanks
    if ← accept "\x7d" then return done
    expect ","
    skipBlanks
    tableItems fuel (if holdsValues item then key :: frozen else frozen) done

end

/-- A document that is being read: what it holds, keys that hold inline values, keys of tables
that were declared, those that dotted keys will have declared once the present table ends, and
the key of the present table. -/
structure State where
  data : Entries := []
  frozen : List Key := []
  declared : List Key := []
  pending : List Key := []
  header : Key := []

/-- Declares a table and moves to it. -/
def State.declareTable (s : State) (key : Key) : Option State :=
  if s.declared.contains key || isFrozen s.frozen key then none
  else (s.data.updateAt true some key).map fun data =>
    { s with data, declared := key :: s.declared, header := key }

def appendTable (key : String) (entries : Entries) : Option Entries :=
  match entries.get? key with
  | none => some (entries.insert key (.list [.map []]))
  | some (.list values) => some (entries.insert key (.list (values ++ [.map []])))
  | some _ => none

/-- Appends a table to a list of tables and moves to it; what was said of the one before it no
longer holds. -/
def State.appendTable (s : State) (key : Key) : Option State :=
  if isFrozen s.frozen key then none
  else
    let (path, last) := splitKey key
    let others := s.declared.filter fun known => !key.isPrefixOf known
    (s.data.updateAt true (Toml.appendTable last) path).map fun data =>
      { s with
        data
        frozen := s.frozen.filter fun known => !key.isPrefixOf known
        declared := key :: others
        header := key }

/-- The tables that a dotted key names on the way, below the present one. -/
def State.dottedTables (s : State) (key : Key) : List Key :=
  (List.range' 1 (key.length - 1)).map fun count => s.header ++ key.take count

/-- Adds a value to the present table. -/
def State.addValue (s : State) (key : Key) (item : Value) : Option State :=
  let dotted := s.dottedTables key
  let (path, last) := splitKey (s.header ++ key)
  if dotted.any s.declared.contains || isFrozen s.frozen path then none
  else (s.data.updateAt true (Entries.add? last item) path).map fun data =>
    { s with
      data
      frozen := if holdsValues item then (s.header ++ key) :: s.frozen else s.frozen
      pending := dotted ++ s.pending }

def State.endTable (s : State) : State :=
  { s with declared := s.pending ++ s.declared, pending := [] }

def tableStatement (s : State) : Reader State := do
  let s := s.endTable
  if ← accept "[[" then
    skipBlanks
    let key ← key
    expect "]]"
    ofOption (s.appendTable key)
  else
    expect "["
    skipBlanks
    let key ← key
    expect "]"
    ofOption (s.declareTable key)

def valueStatement (s : State) : Reader State := do
  let key ← key
  expect "="
  skipBlanks
  let item ← value (2 * (← get).length + 2)
  ofOption (s.addValue key item)

def isKeyStart (c : Char) : Bool := isBareKeyChar c || c == '"' || c == '\''

/-- Statements up to the end, one on a line. -/
def statements : Nat → State → Reader Entries
  | 0, _ => malformed
  | fuel + 1, s => do
    skipBlanks
    match ← peek with
    | none => return s.data
    | some c =>
      let s ← if isKeyStart c then valueStatement s
        else if c = '[' then tableStatement s
        else if c = '#' ∨ c = '\n' then pure s
        else malformed
      skipBlanks
      skipComment
      match ← peek with
      | none => return s.data
      | some _ =>
        expect "\n"
        statements fuel s

/-- A carriage return before a line feed is dropped. -/
def unifyLineEnds : List Char → List Char
  | [] => []
  | '\r' :: '\n' :: rest => '\n' :: unifyLineEnds rest
  | c :: rest => c :: unifyLineEnds rest

def readText (text : List Char) : Except Failure Entries :=
  let text := unifyLineEnds text
  (statements (text.length + 1) {}).run' text

end Toml

end LineFold
