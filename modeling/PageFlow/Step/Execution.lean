import PageFlow.Locator
import PageFlow.Outcome
import PageFlow.Screenshot
import PageFlow.Text.Case
import PageFlow.Text.Search

/-!
# Execution of steps

A step is carried out as a list of moves, most of them single calls on the page.
The moves depend on the step, the settings and the base address alone; the first
one that fails ends the step. Whatever comes of the moves, the step has an
outcome.
-/

namespace PageFlow

open PageFlow.Decimal PageFlow.Text

inductive Move where
  | call (call : Call)
  | pause
  | key (locator character : String)
  | picture (label : String)
  | check (locator expected : String)
  | rest (ms : Binary64)
  | refuse (reason : String) (raw : List (Value × Value))
  deriving Repr, Inhabited

namespace Step

/-- The time limit of a step, which counts even when it is zero, or else the
usual one. -/
def limit (step : Step) (usual : Nat) : Int :=
  (step.timeout.getD usual : Nat)

def moves (settings : Settings) (baseUrl : String) (step : Step) : List Move :=
  let shown (selector : String) : Move :=
    .call (.waitFor (Locator.ofSelector selector) .visible
      (step.limit settings.actionTimeout))
  match step.action with
  | .navigate url =>
    [.call (.goto (Locator.resolveUrl url baseUrl)
      (step.limit settings.navigationTimeout))]
  | .click selector =>
    [shown selector, .pause, .call (.click (Locator.ofSelector selector))]
  | .type selector text =>
    let locator := Locator.ofSelector selector
    [shown selector, .call (.click locator), .call (.clear locator)] ++
      text.toList.map fun c => .key locator c.toString
  | .waitFor selector =>
    [.call (.waitFor (Locator.ofSelector selector) .visible
      (step.limit settings.waitForTimeout))]
  | .screenshot label => [.picture label]
  | .verify selector expected =>
    let locator := Locator.ofSelector selector
    [.call (.waitFor locator .attached (step.limit settings.actionTimeout)),
      .check locator expected]
  | .wait ms => [.rest ms]
  | .scroll selector =>
    let locator := Locator.ofSelector selector
    [.call (.waitFor locator .attached (step.limit settings.waitForTimeout)),
      .call (.scrollIntoView locator)]
  | .hover selector =>
      [shown selector, .call (.hover (Locator.ofSelector selector))]
  | .select selector value =>
    let locator := Locator.ofSelector selector
    [.call (.waitFor locator .attached (step.limit settings.actionTimeout)),
      .call (.selectOption locator value)]
  | .press key => [.call (.pressKey key)]
  | .evaluate script => [.call (.evaluate script)]
  | .malformed reason => [.refuse reason step.raw]

end Step

/-- The action's time is put into the log. -/
def Action.isTimed : Action → Bool
  | .wait _ => false
  | .malformed _ => false
  | _ => true

namespace Verification

/-- The number of characters of a found text that are quoted. -/
def excerptLength : Nat := 100

/-- The expected text occurs in the found one, the case of letters aside. -/
def holds (expected found : String) : Bool :=
  occursIn (lowerChars expected.toList) (lowerChars found.toList)

/-- What is said of a text that was not found. -/
def complaint (expected found : String) : String :=
  "Expected \"" ++ expected ++ "\" but found \"" ++
    String.ofList (found.toList.take excerptLength) ++ "\""

end Verification

/-- What steps are carried out with. -/
structure StepContext where
  settings : Settings
  pacing : Pacing
  baseUrl : String
  screenshotDir : Path

namespace Act

variable {σ α : Type}

/-- A delay of the pacing; none are drawn when there are no delays. -/
def delay (enabled : Bool) (least most : Int) : Act σ Int :=
  if enabled then do
    let chosen ← draw
    return Pacing.within least most chosen
  else return 0

def clickDelay (pacing : Pacing) : Act σ Int :=
  delay pacing.enabled pacing.clickLeast pacing.clickMost

def keyDelay (pacing : Pacing) : Act σ Int :=
  delay pacing.enabled pacing.keyLeast pacing.keyMost

/-- A duration in a log record: milliseconds below one second, else seconds with
three places. -/
def elapsedText (ms : Int) : String :=
  if ms < 1000 then intText ms ++ " ms"
  else (Binary64.ofRatio false ms.toNat 1000).fixed 3 ++ " s"

/-- Writes the time that an act took to the log, whatever came of the act. -/
def timed (level : LogLevel) (label : String) (act : Act σ α) : Act σ α := do
  let log ← logger "stepflow.utils.timing"
  let start ← milliseconds
  ensuring act do
    let ms ← since start
    Act.log log level (label ++ " took " ++ elapsedText ms)

/-- The reason for which a malformed step is refused. Without words of its own
the object that it was read from is shown. -/
def refuse (reason : String) (raw : List (Value × Value)) : Act σ α :=
  if reason.isEmpty then
    match Value.jsonText? (.dict raw) with
    | .ok text => fail (.unmet ("Unknown step type: " ++ text))
    | .error fault => fail (.reason fault)
  else fail (.unmet reason)

/-- Makes a move. A picture gives its path. -/
def makeMove (driver : Driver σ) (context : StepContext) :
    Move → Act σ (Option Path)
  | .call call => do
    let _ ← perform driver call
    return none
  | .pause => do
    let ms ← clickDelay context.pacing
    sleepWhole ms
    return none
  | .key locator character => do
    let ms ← keyDelay context.pacing
    let _ ← perform driver (.typeText locator character ms)
    return none
  | .picture label => do
    let path ← capture driver context.screenshotDir label none
    return some path
  | .check locator expected => do
    let found ← perform driver (.textContent locator)
    if Verification.holds expected found then return none
    else fail (.unmet (Verification.complaint expected found))
  | .rest ms => do
    sleep ms
    return none
  | .refuse reason raw => refuse reason raw

/-- Makes moves in order, up to the first that fails. The path of a picture is
handed on. -/
def makeMoves (driver : Driver σ) (context : StepContext) :
    List Move → Act σ (Option Path)
  | [] => return none
  | move :: rest => do
    let picture ← makeMove driver context move
    let later ← makeMoves driver context rest
    return picture.or later

/-- Does what a step asks for. -/
def carryOut (driver : Driver σ) (context : StepContext) (step : Step) :
    Act σ (Option Path) :=
  let work :=
    makeMoves driver context (step.moves context.settings context.baseUrl)
  if step.action.isTimed then timed .debug step.action.name work else work

/-- Carries a step out and gives its outcome. -/
def execute (driver : Driver σ) (context : StepContext) (step : Step) :
    Act σ Outcome := do
  let plain ← logger "stepflow.core.actions"
  let log ← withContext plain [("action", .text step.action.name)]
  let start ← milliseconds
  let result ← settle (carryOut driver context step)
  let duration ← since start
  match result with
  | .ok picture => return ⟨step, true, duration, none, picture.map Path.text⟩
  | .error fault =>
    Act.log log .debug ("Step failed: " ++ fault.message)
    return ⟨step, false, duration, some fault.message, none⟩

end Act

end PageFlow
