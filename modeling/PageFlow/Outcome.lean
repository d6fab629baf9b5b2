import PageFlow.Path
import PageFlow.Step

/-!
# Results

The outcome of a step, of a run of a flow, of a batch of runs and of a smoke
test. Durations are in milliseconds.
-/

namespace PageFlow

structure Outcome where
  step : Step
  success : Bool
  duration : Int
  error : Option String
  screenshot : Option String
  deriving Repr, Inhabited

/-- What has come of the steps of a run so far: their outcomes, and how many of
them passed and failed. -/
structure Tally where
  outcomes : List Outcome
  passed : Nat
  failed : Nat
  deriving Repr, Inhabited

namespace Tally

/-- No step was attempted yet. -/
def start : Tally := ⟨[], 0, 0⟩

def add (tally : Tally) (outcome : Outcome) : Tally where
  outcomes := tally.outcomes ++ [outcome]
  passed := if outcome.success then tally.passed + 1 else tally.passed
  failed := if outcome.success then tally.failed else tally.failed + 1

end Tally

/-- What came of a run. `total` counts the steps of the flow, attempted or
not. -/
structure RunResult where
  name : String
  baseUrl : String
  steps : List Outcome
  passed : Int
  failed : Int
  total : Int
  duration : Int
  screenshotDir : Path
  deriving Repr, Inhabited

namespace RunResult

def attempted (result : RunResult) : Int :=
  result.passed + result.failed

/-- No step failed. -/
def success (result : RunResult) : Bool :=
  result.failed == 0

def screenshots (result : RunResult) : List String :=
  result.steps.filterMap fun outcome => outcome.screenshot.filter (!·.isEmpty)

end RunResult

structure SmokeResult where
  url : String
  success : Bool
  duration : Int
  error : Option String
  deriving Repr, Inhabited

/-- What came of several runs. A source that gave no run has its error under its
name. -/
structure BatchResult where
  results : List RunResult
  errors : List (String × String)
  deriving Repr, Inhabited

namespace BatchResult

def empty : BatchResult := ⟨[], []⟩

/-- The number of steps that passed in all runs. -/
def totalPassed (batch : BatchResult) : Int :=
  (batch.results.map (·.passed)).foldr (· + ·) 0

/-- The number of steps that failed in all runs. -/
def totalFailed (batch : BatchResult) : Int :=
  (batch.results.map (·.failed)).foldr (· + ·) 0

/-- Every source gave a run, and no step of any run failed. -/
def success (batch : BatchResult) : Bool :=
  batch.errors.isEmpty && batch.totalFailed == 0

def addResult (batch : BatchResult) (result : RunResult) : BatchResult :=
  { batch with results := batch.results ++ [result] }

/-- Puts an error under a name; an earlier one under this name is replaced. -/
def addError (batch : BatchResult) (name error : String) : BatchResult :=
  { batch with errors := put batch.errors }
where
  /-- Replaces the error of the name, or adds it at the end. -/
  put : List (String × String) → List (String × String)
    | [] => [(name, error)]
    | entry :: rest =>
        if entry.1 = name then (name, error) :: rest else entry :: put rest

end BatchResult

end PageFlow
