import LineFold.Number.Double

/-! Configuration values: what a rule, a setting or a table of a configuration file may hold.
A mapping keeps its entries in the order in which their keys were first set. Texts consist of
characters: one with a lone surrogate is left out. -/
namespace LineFold

structure Date where
  year : Nat
  month : Nat
  day : Nat
  deriving DecidableEq

structure Time where
  hour : Nat
  minute : Nat
  second : Nat
  microsecond : Nat
  deriving DecidableEq

inductive Value where
  | null
  | bool (value : Bool)
  | int (value : Int)
  | double (value : Number.Double)
  | text (value : String)
  | list (values : List Value)
  | map (entries : List (String × Value))
  | date (date : Date)
  | time (time : Time)
  | dateTime (date : Date) (time : Time) (offsetMinutes : Option Int)

instance : Inhabited Value := ⟨.null⟩

/-- The entries of a mapping, each key at most once. -/
abbrev Entries := List (String × Value)

namespace Entries

def get? (entries : Entries) (key : String) : Option Value := entries.lookup key

/-- Sets a key: a known one keeps its place, a new one is put at the end. -/
def insert (entries : Entries) (key : String) (value : Value) : Entries :=
  match entries with
  | [] => [(key, value)]
  | (k, v) :: rest => if k = key then (k, value) :: rest else (k, v) :: insert rest key value

def ofList (pairs : List (String × Value)) : Entries :=
  pairs.foldl (fun entries pair => entries.insert pair.1 pair.2) []

end Entries

/-- An absent key and a null count the same. -/
def Entries.find (entries : Entries) (key : String) : Value := (entries.get? key).getD .null

def Value.isNull : Value → Bool
  | null => true
  | _ => false

/-- Whether a value counts as true: it is not empty and not zero. -/
def Value.isTrue : Value → Bool
  | null => false
  | bool value => value
  | int value => value ≠ 0
  | double value => value.magnitude ≠ 0
  | text value => value ≠ ""
  | list values => !values.isEmpty
  | map entries => !entries.isEmpty
  | _ => true

end LineFold
