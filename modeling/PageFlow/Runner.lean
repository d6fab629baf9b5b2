import PageFlow.Report
import PageFlow.Report.Document
import PageFlow.Step.Execution
import PageFlow.Text.Quoted

/-!
# Running flows

A run launches one session for a flow, carries its steps out in order, and tells
the console, the log and a recorder what came of them. A step that fails is part
of the result; a run raises a fault only when its flow cannot be loaded, or when
its session cannot be launched or released.
-/

namespace PageFlow

open PageFlow.Decimal PageFlow.Text

/-- Where a flow comes from: it was read before, it is the value of a document,
or it is in a file, which is known by the text of its path or by the path
itself. -/
inductive FlowSource where
  | flow (flow : Flow)
  | value (value : Value)
  | file (path : String)
  | located (path : Path)
  deriving Repr, Inhabited

/-- The text of a source: the name of a flow, or else what the source is
displayed as. -/
def FlowSource.text : FlowSource → String
  | .flow parsed => parsed.name
  | .value document => document.display
  | .file path => path
  | .located path => path.text

/-- The name under which an error of a source is told. A value that cannot be
displayed has none. -/
def FlowSource.key : FlowSource → Except Value.JsonFault String
  | .value document =>
    if document.isShowable then .ok document.display else .error .tooManyDigits
  | source => .ok source.text

/-- What a run does besides its flow. -/
structure RunOptions where
  baseUrl : Option String
  screenshotDir : Option Path
  headless : Option Bool
  stopOnFailure : Bool
  json : Bool
  deriving Repr, Inhabited

/-- Nothing beyond the settings. -/
def RunOptions.none : RunOptions := ⟨.none, .none, .none, false, false⟩

/-- What keeps the records of runs: nothing, a history in a file, or something
else that may refuse a record, knowing those before it. -/
inductive Recorder where
  | absent
  | history (path : Path)
  | custom (refuses : List RunRecord → RunRecord → Option SessionFault)

/-- What flows are run with. -/
structure Runner where
  settings : Settings
  recorder : Recorder
  pacing : Pacing

/-- The first text that is not empty, or the empty one. -/
def firstText : List (Option String) → String
  | [] => ""
  | some text :: rest => if text.isEmpty then firstText rest else text
  | none :: rest => firstText rest

namespace Runner

open Act

variable {σ : Type}

/-- A runner; what is not given is taken from the settings. -/
def make (settings : Option Settings) (recorder : Option Recorder)
    (pacing : Option Pacing) : Act σ Runner := do
  let s ← match settings with
    | some s => pure s
    | none => Act.settings
  setUpLog
  return {
    settings := s
    recorder := match recorder with
      | some recorder => recorder
      | none => if s.recordHistory then .history s.historyFile else .absent
    pacing := pacing.getD (Pacing.ofSettings s) }

def loadFlow (source : FlowSource) : Act σ Flow := fun world =>
  let result : Except Fault Flow := match source with
    | .flow flow => .ok flow
    | .value (.dict entries) =>
      (Flow.ofValue world.environment "<inline>" (.dict entries)).mapError .flow
    | .value value => .error (.source value.kindName)
    | .file path =>
        (Flow.load world.files world.environment (Path.ofText path)).mapError
          .load
    | .located path =>
        (Flow.load world.files world.environment path).mapError .load
  (result, world)

/-! ## Records -/

def store (path : Path) (record : RunRecord) : Act σ Unit := do
  let log ← logger "stepflow.store.history"
  let id ← fun world =>
    match History.record world.files path record.entry with
    | (files, .ok id) => (.ok id, { world with files := files })
    | (files, .error fault) =>
        (.error (.history fault), { world with files := files })
  Act.log log .debug
    ("Recorded run #" ++ toString (id : Nat) ++ " for flow " ++
      quoted record.flowName)

/-- Hands a record to a recorder. -/
def submit (recorder : Recorder) (record : RunRecord) : Act σ Unit :=
  match recorder with
  | .absent => return
  | .history path => do
    change fun world => { world with received := world.received ++ [record] }
    store path record
  | .custom refuses => do
    let before ← ask (·.received)
    change fun world => { world with received := world.received ++ [record] }
    match refuses before record with
    | some fault => fail (.session fault)
    | none => return

def runLog : Logger := Logger.named "stepflow.core.engine"

/-- Records a finished run. A recorder that fails does no more than cause a
warning. -/
def record (runner : Runner) (flowName baseUrl : String)
    (passed failed total duration : Int) : Act σ Unit := do
  let time ← now
  let record : RunRecord :=
    ⟨flowName, baseUrl, passed, failed, total, duration,
      Calendar.stampText time⟩
  match ← settle (submit runner.recorder record) with
  | .ok () => return
  | .error fault =>
    Act.log runLog .warning
      ("Could not record run for " ++ quoted flowName ++ ": " ++ fault.message)

/-! ## One flow -/

def printReport (parts : List Markup.Part) : Act σ Unit := do
  let text ← orFail Fault.markup (Report.printed? parts)
  print text

/-- Prints a report, unless a document is asked for. -/
def report (options : RunOptions) (parts : List Markup.Part) : Act σ Unit :=
  if options.json then return else printReport parts

def printDocument (document : Json) : Act σ Unit :=
  print (Markup.rawConsoleText (Json.block .unicode document))

/-- What a log record says of a failed step. -/
def failureText (index total : Nat) (outcome : Outcome) : String :=
  "Step " ++ toString index ++ "/" ++ toString total ++ " failed: " ++
    outcome.error.getD ""

/-- What a log record says of a run that is stopped. -/
def stopText (index total : Nat) : String :=
  "Stopping after failed step " ++ toString index ++ "; " ++
    toString (total - index) ++
    " step(s) skipped"

/-- Tells the log and the console what came of the step with a number. -/
def tellStep (options : RunOptions) (stepLog : Logger) (index total : Nat)
    (outcome : Outcome) : Act σ Unit := do
  if !outcome.success then
    Act.log stepLog .warning (failureText index total outcome)
  report options (Report.stepLines outcome index)

/-- Carries out the steps from a number on, on top of what came of those before.
With `stopOnFailure` the first failure is the last outcome. -/
def runSteps (driver : Driver σ) (context : StepContext) (options : RunOptions)
    (log : Logger) (total : Nat) : Nat → List Step → Tally → Act σ Tally
  | _, [], tally => return tally
  | index, step :: rest, tally => do
    let stepLog ← withContext log
      [("step_index", .int index), ("action", .text step.action.name)]
    let outcome ← execute driver context step
    tellStep options stepLog index total outcome
    if !outcome.success && options.stopOnFailure then
      Act.log stepLog .info (stopText index total)
      return tally.add outcome
    else
      runSteps driver context options log total (index + 1) rest
        (tally.add outcome)

/-- The result of a run from what came of its steps. -/
def resultOf (flow : Flow) (context : StepContext) (duration : Int)
    (tally : Tally) : RunResult where
  name := flow.name
  baseUrl := context.baseUrl
  steps := tally.outcomes
  passed := tally.passed
  failed := tally.failed
  total := flow.steps.length
  duration := duration
  screenshotDir := context.screenshotDir

/-- What a log record says of a run that begins. -/
def startText (flow : Flow) (baseUrl : String) : String :=
  "Starting flow: " ++ flow.name ++ " (steps=" ++ toString flow.steps.length ++
    ", base_url=" ++
    (if baseUrl.isEmpty then "-" else baseUrl) ++ ")"

/-- What a log record says of a run that has ended. -/
def finishText (result : RunResult) : String :=
  "Finished flow: " ++ result.name ++ " passed=" ++ intText result.passed ++
    " failed=" ++
    intText result.failed ++ " total=" ++ intText result.total ++ " (" ++
    intText result.duration ++ " ms)"

/-- What the steps of a flow are carried out with. -/
def contextFor (runner : Runner) (options : RunOptions) (flow : Flow) :
    StepContext where
  settings := runner.settings
  pacing := runner.pacing
  baseUrl := firstText [options.baseUrl, flow.baseUrl]
  screenshotDir := options.screenshotDir.getD runner.settings.screenshotDir

def runFlow (runner : Runner) (driver : Driver σ) (options : RunOptions)
    (flow : Flow) : Act σ RunResult := do
  let context := runner.contextFor options flow
  ensureDirectory context.screenshotDir
  let log ← withContext runLog [("flow", .text flow.name)]
  Act.log log .info (startText flow context.baseUrl)
  report options (Report.header flow.name context.baseUrl)
  let start ← milliseconds
  let tally ← withSession driver
      (options.headless.getD runner.settings.headless)
    (runSteps driver context options log flow.steps.length 1 flow.steps .start)
  let duration ← since start
  let result := resultOf flow context duration tally
  Act.log log .info (finishText result)
  runner.record result.name result.baseUrl result.passed result.failed
    result.total result.duration
  report options (Report.summary result)
  return result

def runSource (runner : Runner) (driver : Driver σ) (options : RunOptions)
    (source : FlowSource) : Act σ RunResult := do
  let flow ← loadFlow source
  runner.runFlow driver options flow

/-- Runs a source; if a document is asked for, the report of the run is printed
at the end. -/
def run (runner : Runner) (driver : Driver σ) (options : RunOptions)
    (source : FlowSource) : Act σ RunResult := do
  let result ← runner.runSource driver options source
  if options.json then
    let time ← now
    printDocument (Report.document (Calendar.stampText time) result)
  return result

/-! ## Several flows -/

/-- Runs flows one after another on top of earlier results. A source that gives
no run is told among the errors. With `stopOnFailure` a run with a failed step
is the last one. The name of a source is asked for before its run, and nothing
catches the fault of a source that has none. -/
def runEach (runner : Runner) (driver : Driver σ) (options : RunOptions) :
    List FlowSource → BatchResult → Act σ BatchResult
  | [], batch => return batch
  | source :: rest, batch => do
    let key ← orFail Fault.reason source.key
    match ← settle (runner.runSource driver options source) with
    | .error fault =>
      Act.log runLog .error
        ("Error running flow " ++ key ++ ": " ++ fault.message)
      runner.runEach driver options rest (batch.addError key fault.message)
    | .ok result =>
      if result.failed > 0 && options.stopOnFailure then
        return batch.addResult result
      else runner.runEach driver options rest (batch.addResult result)

/-- Runs flows one after another and prints a report of the batch. -/
def runAll (runner : Runner) (driver : Driver σ) (options : RunOptions)
    (sources : List FlowSource) : Act σ BatchResult := do
  let batch ← runner.runEach driver options sources .empty
  if options.json then
    let time ← now
    printDocument (Report.documents (Calendar.stampText time) batch.results)
  else
    printReport (Report.batch batch)
  return batch

end Runner

end PageFlow
