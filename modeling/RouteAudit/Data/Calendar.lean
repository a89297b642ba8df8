import RouteAudit.Data.Display

/-! # Days and times

`Date.check` and `Moment.check` accept the days of the calendar and the times of a day, and name the
first part that is out of its range. `Moment.ofSeconds` counts from the start of 1970. -/

namespace RouteAudit

/-- The part of a time that is out of its range. -/
inductive CalendarError where
  | year (n : Nat)
  | month
  | day
  | hour
  | minute
  | second
deriving DecidableEq, Repr

def CalendarError.message : CalendarError → String
  | year n => "year " ++ natText n ++ " is out of range"
  | month => "month must be in 1..12"
  | day => "day is out of range for month"
  | hour => "hour must be in 0..23"
  | minute => "minute must be in 0..59"
  | second => "second must be in 0..59"

def isLeapYear (year : Nat) : Bool := year % 4 == 0 && (year % 100 != 0 || year % 400 == 0)

def daysInMonth (year month : Nat) : Nat :=
  if month == 2 then (if isLeapYear year then 29 else 28)
  else if [4, 6, 9, 11].contains month then 30
  else 31

def Date.check (d : Date) : Except CalendarError Date :=
  if d.year < 1 || 9999 < d.year then .error (.year d.year)
  else if d.month < 1 || 12 < d.month then .error .month
  else if d.day < 1 || daysInMonth d.year d.month < d.day then .error .day
  else .ok d

def Moment.check (t : Moment) : Except CalendarError Moment := do
  let _ ← t.date.check
  if 23 < t.hour then throw .hour
  if 59 < t.minute then throw .minute
  if 59 < t.second then throw .second
  return t

/-! ### Counting from 1970 -/

/-- The day with a number. Years are counted from March on, so that the leap day ends one, in spans
of 400 years, which are all equally long. -/
def Date.ofNumber (days : Nat) : Date :=
  let shifted := days + 719468
  let span := shifted / 146097
  let inSpan := shifted % 146097
  let year := (inSpan - inSpan / 1460 + inSpan / 36524 - inSpan / 146096) / 365
  let inYear := inSpan - (365 * year + year / 4 - year / 100)
  let month := (5 * inYear + 2) / 153
  { year := year + 400 * span + (if month < 10 then 0 else 1)
    month := if month < 10 then month + 3 else month - 9
    day := inYear - (153 * month + 2) / 5 + 1 }

/-- The moment some seconds after the start of 1970, in universal time. -/
def Moment.ofSeconds (seconds : Nat) : Moment where
  date := .ofNumber (seconds / 86400)
  hour := seconds % 86400 / 3600
  minute := seconds % 3600 / 60
  second := seconds % 60
  micro := 0
  offset := some 0

/-- A moment in the form of exchange formats. -/
def Moment.exchangeText (t : Moment) : String :=
  t.date.display ++ "T" ++ padded 2 t.hour ++ ":" ++ padded 2 t.minute ++ ":" ++ padded 2 t.second

end RouteAudit
