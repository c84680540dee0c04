import LineFold.Text.Quoted
import LineFold.Value

/-! How a value is written in a message: texts are quoted, lists stand in brackets and mappings
in braces, and dates name their fields. -/
namespace LineFold

def commaSeparated : List String → String := String.intercalate ", "

def Date.fields (date : Date) : List Nat := [date.year, date.month, date.day]

/-- Seconds and microseconds are left out where nothing but zeros would follow. -/
def Time.fields (time : Time) : List Nat :=
  [time.hour, time.minute] ++
    (if time.microsecond ≠ 0 then [time.second, time.microsecond]
     else if time.second ≠ 0 then [time.second] else [])

/-- An offset in minutes, as whole days and the seconds that remain. -/
def zoneText (minutes : Int) : String :=
  if minutes = 0 then "datetime.timezone.utc"
  else
    let days := Int.fdiv minutes 1440
    let seconds := Int.fmod minutes 1440 * 60
    let parts := (if days = 0 then [] else ["days=" ++ toString days]) ++
      (if seconds = 0 then [] else ["seconds=" ++ toString seconds])
    "datetime.timezone(datetime.timedelta(" ++ commaSeparated parts ++ "))"

def numberFields (fields : List Nat) : List String := fields.map (toString ·)

mutual

def Value.toText : Value → String
  | .null => "None"
  | .bool b => if b then "True" else "False"
  | .int n => toString n
  | .double x => x.text
  | .text t => Text.quoted t
  | .list values => "[" ++ commaSeparated (Value.listTexts values) ++ "]"
  | .map entries => "\x7b" ++ commaSeparated (Value.entryTexts entries) ++ "\x7d"
  | .date day => "datetime.date(" ++ commaSeparated (numberFields day.fields) ++ ")"
  | .time clock => "datetime.time(" ++ commaSeparated (numberFields clock.fields) ++ ")"
  | .dateTime day clock offset =>
    let zone := match offset with
      | some minutes => ["tzinfo=" ++ zoneText minutes]
      | none => []
    "datetime.datetime(" ++
      commaSeparated (numberFields (day.fields ++ clock.fields) ++ zone) ++ ")"

def Value.listTexts : List Value → List String
  | [] => []
  | value :: rest => value.toText :: Value.listTexts rest

def Value.entryTexts : List (String × Value) → List String
  | [] => []
  | (key, value) :: rest =>
    (Text.quoted key ++ ": " ++ value.toText) :: Value.entryTexts rest

end

end LineFold
