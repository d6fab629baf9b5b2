import PageFlow.Json.Writer
import PageFlow.Outcome
import PageFlow.Step.Label

/-!
# Report documents

The report of a run as a JSON document. What a step does not have is left out of
its entry.
-/

namespace PageFlow.Report

def stepEntry (index : Nat) (outcome : Outcome) : Json :=
  .object (
    [("index", .int index),
      ("action", .text outcome.step.label),
      ("success", .bool outcome.success),
      ("duration", .int outcome.duration)] ++
    (match outcome.error with
      | none => []
      | some error => [("error", .text error)]) ++
    (match outcome.screenshot with
      | none => []
      | some path => [("screenshot", .text path)]))

/-- The entries of steps, numbered from `next`. -/
def stepEntries (next : Nat) : List Outcome → List Json
  | [] => []
  | outcome :: rest => stepEntry next outcome :: stepEntries (next + 1) rest

def summaryEntry (result : RunResult) : Json :=
  .object [
    ("passed", .int result.passed),
    ("failed", .int result.failed),
    ("total", .int result.total),
    ("duration", .int result.duration),
    ("success", .bool result.success)]

def document (timestamp : String) (result : RunResult) : Json :=
  .object [
    ("name", .text result.name),
    ("baseUrl", .text result.baseUrl),
    ("timestamp", .text timestamp),
    ("summary", summaryEntry result),
    ("steps", .array (stepEntries 1 result.steps))]

/-- The reports of several runs at one time. -/
def documents (timestamp : String) (results : List RunResult) : Json :=
  .array (results.map (document timestamp))

end PageFlow.Report
