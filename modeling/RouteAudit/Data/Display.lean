import RouteAudit.Data.Value
import RouteAudit.Number.Shortest
import RouteAudit.Text.Basic
import RouteAudit.Text.Quoted

/-! # The text of values

`Value.quoted` writes a value with its texts quoted, as it stands inside a list or mapping;
`Value.display` is the same but for a text, which stands for itself, and for dates, which are
written in the calendar's own notation. Integers are written out up to a number of digits, and
`Value.isWritable` tells whether all integers in a value are. `Value.kindName` names the kind of a
value. -/

namespace RouteAudit

/-- A number padded with zeros. -/
def padded (width n : Nat) : String :=
  let ds := decimalDigits n
  String.ofList (List.replicate (width - ds.length) '0' ++ ds)

namespace Date

def display (d : Date) : String :=
  padded 4 d.year ++ "-" ++ padded 2 d.month ++ "-" ++ padded 2 d.day

def arguments (d : Date) : List String := [natText d.year, natText d.month, natText d.day]

def quoted (d : Date) : String := "datetime.date(" ++ Text.join ", " d.arguments ++ ")"

end Date

namespace Moment

/-- The distance from universal time as hours, minutes and, if there are any, seconds. -/
def offsetText (seconds : Int) : String :=
  let n := seconds.natAbs
  (if seconds < 0 then "-" else "+") ++ padded 2 (n / 3600) ++ ":" ++ padded 2 (n / 60 % 60) ++
    (if n % 60 = 0 then "" else ":" ++ padded 2 (n % 60))

def display (t : Moment) : String :=
  t.date.display ++ " " ++ padded 2 t.hour ++ ":" ++ padded 2 t.minute ++ ":" ++ padded 2 t.second ++
    (if t.micro = 0 then "" else "." ++ padded 6 t.micro) ++
    (match t.offset with
      | some s => offsetText s
      | none => "")

/-- The distance from universal time as days and seconds. -/
def quotedZone (seconds : Int) : String :=
  if seconds = 0 then "datetime.timezone.utc"
  else
    let days := Int.fdiv seconds 86400
    let rest := seconds - days * 86400
    let parts := (if days = 0 then [] else ["days=" ++ intText days]) ++
      (if rest = 0 then [] else ["seconds=" ++ intText rest])
    "datetime.timezone(datetime.timedelta(" ++ Text.join ", " parts ++ "))"

def quoted (t : Moment) : String :=
  let clock := [natText t.hour, natText t.minute] ++
    (if t.second = 0 ∧ t.micro = 0 then [] else [natText t.second]) ++
    (if t.micro = 0 then [] else [natText t.micro])
  let zone := match t.offset with
    | some s => ["tzinfo=" ++ quotedZone s]
    | none => []
  "datetime.datetime(" ++ Text.join ", " (t.date.arguments ++ clock ++ zone) ++ ")"

end Moment

namespace Value

mutual

/-- The text of a value inside a list or mapping. -/
def quoted : Value → String
  | null => "None"
  | bool b => if b then "True" else "False"
  | int n => intText n
  | float x => x.render
  | text s => Text.quoted s
  | date d => d.quoted
  | moment t => t.quoted
  | list items => "[" ++ Text.join ", " (quotedItems items) ++ "]"
  | map entries => "\x7b" ++ Text.join ", " (quotedEntries entries) ++ "\x7d"

/-- The texts of the items of a list. -/
def quotedItems : List Value → List String
  | [] => []
  | v :: rest => quoted v :: quotedItems rest

/-- The texts of the entries of a mapping. -/
def quotedEntries : List (Value × Value) → List String
  | [] => []
  | (k, v) :: rest => (quoted k ++ ": " ++ quoted v) :: quotedEntries rest

end

/-- The text of a value by itself. -/
def display : Value → String
  | text s => s
  | date d => d.display
  | moment t => t.display
  | v => v.quoted

/-- The most digits that an integer is written with. -/
def digitLimit : Nat := 4300

mutual

/-- No integer in a value has too many digits to be written. -/
def isWritable : Value → Bool
  | int n => decide (n.natAbs < Nat.pow 10 digitLimit)
  | list items => areWritable items
  | map entries => entriesWritable entries
  | _ => true

def areWritable : List Value → Bool
  | [] => true
  | v :: rest => isWritable v && areWritable rest

def entriesWritable : List (Value × Value) → Bool
  | [] => true
  | (k, v) :: rest => isWritable k && isWritable v && entriesWritable rest

end

/-- The name of a value's kind. -/
def kindName : Value → String
  | null => "NoneType"
  | bool _ => "bool"
  | int _ => "int"
  | float _ => "float"
  | text _ => "str"
  | date _ => "datetime.date"
  | moment _ => "datetime.datetime"
  | list _ => "list"
  | map _ => "dict"

end Value

end RouteAudit
