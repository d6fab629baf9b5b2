import PageFlow.Runner

/-!
# Smoke tests

A smoke test loads one page. The page must not show that an error was served,
and it must not be empty.
-/

namespace PageFlow

open PageFlow.Text

namespace Smoke

def recordName : String := "Smoke Test"

/-- What pages of failing servers say. -/
def errorMarkers : List String :=
  ["502 Bad Gateway", "503 Service Unavailable", "500 Internal Server Error",
    "404 Not Found"]

/-- The least number of characters of a page without a title. -/
def leastContent : Nat := 100

/-- What is wrong with a page, if anything is. -/
def complaint? (title content : String) : Option String :=
  if errorMarkers.any fun marker => occursIn marker.toList content.toList then
    some "Page returned an error status"
  else if title.isEmpty && content.length < leastContent then
    some "Page appears to be empty"
  else none

/-- What is said of a fault: its text, or the word for its kind if it has
none. -/
def faultText : Fault → String
  | .session fault => if fault.text.isEmpty then fault.kind else fault.text
  | fault => fault.message

end Smoke

namespace Runner

open Act

variable {σ : Type}

/-- Loads a page and says what is wrong with it. -/
def inspectPage (driver : Driver σ) (url : String) (timeout : Int) :
    Act σ (Option String) := do
  let _ ← perform driver (.goto url timeout)
  let title ← perform driver .title
  let content ← perform driver .content
  return Smoke.complaint? title content

/-- The error of a page; a fault of the session is one. -/
def pageError (driver : Driver σ) (url : String) (timeout : Int) :
    Act σ (Option String) := do
  match ← settle (inspectPage driver url timeout) with
  | .ok complaint => return complaint
  | .error fault => return some (Smoke.faultText fault)

def smoke (runner : Runner) (driver : Driver σ) (url : String)
    (timeout : Option Int) (headless : Option Bool) : Act σ SmokeResult := do
  let start ← milliseconds
  let error ← withSession driver (headless.getD runner.settings.headless)
    (pageError driver url (timeout.getD runner.settings.smokeTimeout))
  let duration ← since start
  let result : SmokeResult := ⟨url, error.isNone, duration, error⟩
  printReport (Report.smoke result)
  let passed := if result.success then 1 else 0
  runner.record Smoke.recordName url passed (1 - passed) 1 duration
  return result

end Runner

end PageFlow
