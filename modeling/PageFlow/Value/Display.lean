import PageFlow.Text.Quoted
import PageFlow.Value

/-!
# Display of values

The text of a value in a message. `Value.display` shows a text as itself,
`Value.inspect` shows it quoted; collections always show their parts inspected.
-/

namespace PageFlow

open PageFlow.Decimal PageFlow.Text

def inspectDate (day : Date) : String :=
  "datetime.date(" ++ toString day.year ++ ", " ++ toString day.month ++ ", " ++
    toString day.day ++ ")"

/-- The inspected form of a date and time. Seconds and microseconds are left out
from the end when they are zero. -/
def inspectTime (moment : DateTime) : String :=
  let head :=
    [moment.date.year, moment.date.month, moment.date.day, moment.hour,
      moment.minute]
  let tail := if moment.micro ≠ 0 then [moment.second, moment.micro]
    else if moment.second ≠ 0 then [moment.second] else []
  let zone := match moment.offset with
    | none => ""
    | some 0 => ", tzinfo=datetime.timezone.utc"
    | some seconds =>
      ", tzinfo=datetime.timezone(" ++ CalendarFault.spanText seconds ++ ")"
  "datetime.datetime(" ++ ", ".intercalate ((head ++ tail).map toString) ++
    zone ++ ")"

namespace Value

mutual

/-- The form of a value inside a collection. -/
def inspect : Value → String
  | .null => "None"
  | .bool b => if b then "True" else "False"
  | .int n => intText n
  | .float x => x.text
  | .text s => quoted s
  | .list items => "[" ++ ", ".intercalate (inspectAll items) ++ "]"
  | .dict entries =>
      "\x7b" ++ ", ".intercalate (inspectEntries entries) ++ "\x7d"
  | .bytes data => quotedBytes data
  | .date day => inspectDate day
  | .time moment => inspectTime moment
  | .set items =>
      if items.isEmpty then "set()"
        else "\x7b" ++ ", ".intercalate (inspectAll items) ++ "\x7d"
  | .pair first second => "(" ++ inspect first ++ ", " ++ inspect second ++ ")"
  | .knot mapping => if mapping then "\x7b...\x7d" else "[...]"

def inspectAll : List Value → List String
  | [] => []
  | item :: rest => inspect item :: inspectAll rest

def inspectEntries : List (Value × Value) → List String
  | [] => []
  | (key, value) :: rest =>
      (inspect key ++ ": " ++ inspect value) :: inspectEntries rest

end

/-- The form of a value on its own: texts, dates and times stand without
marks. -/
def display : Value → String
  | .text s => s
  | .date day => Calendar.dateText day
  | .time moment => Calendar.dateTimeText moment
  | other => other.inspect

def kindName : Value → String
  | .null => "NoneType"
  | .bool _ => "bool"
  | .int _ => "int"
  | .float _ => "float"
  | .text _ => "str"
  | .list _ => "list"
  | .dict _ => "dict"
  | .bytes _ => "bytes"
  | .date _ => "datetime.date"
  | .time _ => "datetime.datetime"
  | .set _ => "set"
  | .pair _ _ => "tuple"
  | .knot mapping => if mapping then "dict" else "list"

end Value

end PageFlow
