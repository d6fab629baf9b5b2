import PageFlow.Calendar
import PageFlow.Json.Writer
import PageFlow.Log

/-!
# Lines of a log file

A record in a log file is a JSON document on one line. It tells the time in
whole seconds, the level, the logger and the message, then the report of an
error, if there was one, then the context. A value of the context replaces an
entry of its name.
-/

namespace PageFlow.Log

def secondText (time : DateTime) : String :=
  Calendar.dateText time.date ++ "T" ++ Calendar.clockText time

def lineDocument (time : DateTime) (level logger message : String)
    (report : Option String) (context : LogContext) : Json :=
  let entries := [("ts", .text (secondText time)), ("level", .text level),
    ("logger", .text logger), ("msg", .text message)]
  let reported := match report with
    | none => entries
    | some text => entries ++ [("exc_info", .text text)]
  .object (LogContext.merge reported context)

def line (time : DateTime) (record : LogRecord) : String :=
  Json.line (lineDocument time record.level.name record.logger record.message
    none record.context)

end PageFlow.Log
