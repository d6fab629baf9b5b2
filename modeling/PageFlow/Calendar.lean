import PageFlow.Decimal.Layout

/-!
# Calendar

Dates of the proleptic Gregorian calendar in the years 1 to 9999, times of day
with an optional offset, and the instant of a day count. A moment is a number of
microseconds since the first of January 1970.
-/

namespace PageFlow

open PageFlow.Decimal

/-- A calendar date. -/
structure Date where
  year : Nat
  month : Nat
  day : Nat
  deriving DecidableEq, Repr, Inhabited

/-- A date and a time of day. `offset` counts seconds east of Greenwich, when it
is known. -/
structure DateTime where
  date : Date
  hour : Nat
  minute : Nat
  second : Nat
  micro : Nat
  offset : Option Int
  deriving DecidableEq, Repr, Inhabited

/-- What is wrong with the parts of a date or a time. -/
inductive CalendarFault where
  | year (value : Nat)
  | month
  | day
  | hour
  | minute
  | second
  | offset (seconds : Int)
  deriving DecidableEq, Repr

namespace Calendar

/-- A year with a 29th of February. -/
def isLeap (year : Nat) : Bool :=
  year % 4 == 0 && (year % 100 != 0 || year % 400 == 0)

def daysInMonth (year month : Nat) : Nat :=
  if month = 2 then (if isLeap year then 29 else 28)
  else if month = 4 ∨ month = 6 ∨ month = 9 ∨ month = 11 then 30
  else 31

/-- Days from the first of January 1970 to a date. Years are counted from March,
so that the leap day is the last one of its year. -/
def dayNumber (date : Date) : Int :=
  let year : Int := if date.month ≤ 2 then (date.year : Int) - 1 else date.year
  let era := Int.fdiv year 400
  let yearOfEra := year - era * 400
  let month : Int :=
    if date.month > 2 then (date.month : Int) - 3 else (date.month : Int) + 9
  let dayOfYear := Int.fdiv (153 * month + 2) 5 + (date.day : Int) - 1
  let dayOfEra :=
    yearOfEra * 365 + Int.fdiv yearOfEra 4 - Int.fdiv yearOfEra 100 + dayOfYear
  era * 146097 + dayOfEra - 719468

/-- The date a number of days after the first of January 1970. -/
def ofDayNumber (days : Int) : Date :=
  let shifted := days + 719468
  let era := Int.fdiv shifted 146097
  let dayOfEra := shifted - era * 146097
  let yearOfEra :=
    Int.fdiv
      (dayOfEra - Int.fdiv dayOfEra 1460 + Int.fdiv dayOfEra 36524 -
        Int.fdiv dayOfEra 146096) 365
  let dayOfYear :=
    dayOfEra - (365 * yearOfEra + Int.fdiv yearOfEra 4 - Int.fdiv yearOfEra 100)
  let month := Int.fdiv (5 * dayOfYear + 2) 153
  let day := dayOfYear - Int.fdiv (153 * month + 2) 5 + 1
  let civilMonth := if month < 10 then month + 3 else month - 9
  let year := yearOfEra + era * 400 + (if civilMonth ≤ 2 then 1 else 0)
  ⟨year.toNat, civilMonth.toNat, day.toNat⟩

/-- A date of the calendar, or the first part that is out of range. -/
def date? (year month day : Nat) : Except CalendarFault Date :=
  if year < 1 ∨ 9999 < year then .error (.year year)
  else if month < 1 ∨ 12 < month then .error .month
  else if day < 1 ∨ daysInMonth year month < day then .error .day
  else .ok ⟨year, month, day⟩

/-- A date and time, or the first part that is out of range. -/
def dateTime? (year month day hour minute second micro : Nat)
    (offset : Option Int) :
    Except CalendarFault DateTime := do
  match offset with
  | some seconds =>
    if seconds ≤ -86400 ∨ 86400 ≤ seconds then throw (.offset seconds)
  | none => pure ()
  let date ← date? year month day
  if 23 < hour then throw .hour
  if 59 < minute then throw .minute
  if 59 < second then throw .second
  return ⟨date, hour, minute, second, micro, offset⟩

/-- A natural number with at least `width` digits. -/
def digits (width n : Nat) : String :=
  String.ofList (padZeros width (natDigits n))

def dateText (date : Date) : String :=
  digits 4 date.year ++ "-" ++ digits 2 date.month ++ "-" ++ digits 2 date.day

/-- Hour, minute and second joined by colons. -/
def clockText (time : DateTime) : String :=
  digits 2 time.hour ++ ":" ++ digits 2 time.minute ++ ":" ++
    digits 2 time.second

/-- A sign, hours and minutes, and the seconds if there are any. -/
def offsetText (seconds : Int) : String :=
  let size := seconds.natAbs
  (if seconds < 0 then "-" else "+") ++ digits 2 (size / 3600) ++ ":" ++
    digits 2 (size / 60 % 60) ++
    (if size % 60 = 0 then "" else ":" ++ digits 2 (size % 60))

/-- The text of a date and time with a blank between them; microseconds only if
there are any. -/
def dateTimeText (time : DateTime) : String :=
  dateText time.date ++ " " ++ clockText time ++
    (if time.micro = 0 then "" else "." ++ digits 6 time.micro) ++
    (time.offset.map offsetText).getD ""

/-- The text of a date and time with a `T` between them and three digits of the
second. The offset zero is written `Z`. -/
def stampText (time : DateTime) : String :=
  dateText time.date ++ "T" ++ clockText time ++ "." ++
    digits 3 (time.micro / 1000) ++
    match time.offset with
    | none => ""
    | some 0 => "Z"
    | some seconds => offsetText seconds

/-- The date and time of a moment, with offset zero. -/
def ofMoment (micros : Int) : DateTime :=
  let seconds := Int.fdiv micros 1000000
  let days := Int.fdiv seconds 86400
  let rest := (seconds - days * 86400).toNat
  ⟨ofDayNumber days, rest / 3600, rest / 60 % 60, rest % 60,
    (micros - seconds * 1000000).toNat, some 0⟩

/-- A moment as compact digits: date, `T`, time, `Z`. -/
def compactText (time : DateTime) : String :=
  digits 4 time.date.year ++ digits 2 time.date.month ++
    digits 2 time.date.day ++ "T" ++
    digits 2 time.hour ++ digits 2 time.minute ++ digits 2 time.second ++ "Z"

end Calendar

/-- A whole number of days and the seconds left over, which are never
negative. -/
def CalendarFault.spanText (seconds : Int) : String :=
  let days := Int.fdiv seconds 86400
  let rest := seconds - days * 86400
  let parts := (if days = 0 then [] else ["days=" ++ intText days]) ++
    (if rest = 0 then [] else ["seconds=" ++ intText rest])
  "datetime.timedelta(" ++
    (if parts.isEmpty then "0" else ", ".intercalate parts) ++ ")"

def CalendarFault.message : CalendarFault → String
  | .year value => "year " ++ toString value ++ " is out of range"
  | .month => "month must be in 1..12"
  | .day => "day is out of range for month"
  | .hour => "hour must be in 0..23"
  | .minute => "minute must be in 0..59"
  | .second => "second must be in 0..59"
  | .offset seconds =>
    "offset must be a timedelta strictly between -timedelta(hours=24) and " ++
      "timedelta(hours=24), not " ++ CalendarFault.spanText seconds ++ "."

end PageFlow
