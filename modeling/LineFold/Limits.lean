import LineFold.Text.Integer

/-! Limits on documents. Each has a variable of the environment that overrides it. -/
namespace LineFold

def defaultMaxFileSize : Int := 10 * 1024 * 1024

def defaultMaxLineLength : Int := 100000

abbrev Environment := List (String × String)

inductive LimitError where
  | notInteger (name text : String)
  | notPositive (name : String) (value : Int)
  deriving DecidableEq

def LimitError.message : LimitError → String
  | notInteger name text =>
    "Invalid value for " ++ name ++ ": " ++ text ++ " (expected positive integer)"
  | notPositive name value =>
    name ++ " must be a positive integer, got " ++ toString value ++ "."

/-- A limit: the value of its variable, or `default` where that is not set. -/
def readLimit (environment : Environment) (name : String) (default : Int) :
    Except LimitError Int :=
  match environment.lookup name with
  | none => .ok default
  | some text =>
    match Text.readInteger? text.toList with
    | none => .error (.notInteger name text)
    | some value => if value ≤ 0 then .error (.notPositive name value) else .ok value

def maxFileSize (environment : Environment) (default : Int) : Except LimitError Int :=
  readLimit environment "EXPLICIT_FOLDING_MAX_FILE_SIZE" default

def maxLineLength (environment : Environment) (default : Int) : Except LimitError Int :=
  readLimit environment "EXPLICIT_FOLDING_MAX_LINE_LENGTH" default

/-- A line, counted from one, that is longer than the limit. -/
structure LongLine where
  number : Nat
  limit : Int
  deriving DecidableEq

def LongLine.message (line : LongLine) : String :=
  "Line " ++ toString line.number ++ " exceeds maximum allowed length of " ++
    toString line.limit ++ " characters"

/-- The first line longer than `limit`; the lines are numbered from `number`. -/
def longLineFrom? (limit : Int) : Nat → List String → Option LongLine
  | _, [] => none
  | number, line :: rest =>
    if limit < line.length then some ⟨number, limit⟩ else longLineFrom? limit (number + 1) rest

def longLine? (limit : Int) (lines : List String) : Option LongLine := longLineFrom? limit 1 lines

end LineFold
