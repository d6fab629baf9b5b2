import PageFlow.Markup.Tag
import PageFlow.Outcome
import PageFlow.Step.Label

/-!
# Progress reports

What a console shows for a run: a header, a line per step, a summary; and the
results of a smoke test and of a batch. Every report is a template, so that all
text from outside is escaped.
-/

namespace PageFlow.Report

open PageFlow.Decimal PageFlow.Markup

def rule : String :=
  String.ofList (List.replicate 50 '─')

/-- A duration: milliseconds below one second, else seconds with one place. -/
def durationText (ms : Int) : String :=
  if ms < 1000 then intText ms ++ "ms"
  else (Binary64.ofRatio false ms.toNat 1000).fixed 1 ++ "s"

def header (name baseUrl : String) : List Part :=
  joinLines [
    [.fixed ""],
    styled "bold" [.fixed "🧪 Testing: ", .user name],
    styled "grey50" [.fixed "   Base URL: ", .user baseUrl],
    styled "bold" [.fixed rule]]

def timing (ms : Int) : List Part :=
  styled "grey50" [.fixed (" (" ++ durationText ms ++ ")")]

/-- The line of an error, unless it has no text. -/
def errorLine (error : Option String) : List (List Part) :=
  match error with
  | none => []
  | some text =>
    if text.isEmpty then []
      else [styled "red" [.fixed "     Error: ", .user text]]

def stepTitle (outcome : Outcome) (index : Nat) : String :=
  toString index ++ ". " ++ outcome.step.label

/-- The line of a step, with a second one for its screenshot or its error. -/
def stepLines (outcome : Outcome) (index : Nat) : List Part :=
  let title := Part.user (stepTitle outcome index)
  if outcome.success then
    match outcome.step.action with
    | .screenshot _ =>
      joinLines (styled "cyan" [.fixed "  📸 ", title] ::
        match outcome.screenshot with
        | none => []
        | some path =>
          if path.isEmpty then []
            else [styled "grey50" [.fixed "     → ", .user path]])
    | _ => styled "green" [.fixed "  ✅ ", title] ++ timing outcome.duration
  else
    joinLines
      ((styled "red" [.fixed "  ❌ ", title] ++ timing outcome.duration) ::
        errorLine outcome.error)

def verdict (result : RunResult) : List Part :=
  let counts :=
    "\nResult: " ++ intText result.passed ++ "/" ++
      intText result.total ++ " passed"
  if result.success then styled "bold green" [.fixed (counts ++ " ✅")]
  else styled "bold red"
    [.fixed (counts ++ ", " ++ intText result.failed ++ " failed ❌")]

def summary (result : RunResult) : List Part :=
  joinLines (
    [[.fixed ""], styled "bold" [.fixed rule], verdict result,
      styled "grey50"
        [.fixed ("Duration: " ++ durationText result.duration)]] ++
    (if result.screenshots.isEmpty then []
      else [styled "grey50"
        [.fixed "Screenshots saved to: ", .user result.screenshotDir.text,
          .fixed "/"]]) ++
    [[.fixed ""]])

def smoke (result : SmokeResult) : List Part :=
  joinLines (
    [[.fixed ""],
      styled "bold" [.fixed "🔥 Smoke Test: ", .user result.url],
      styled "bold" [.fixed rule]] ++
    (if result.success then
      [styled "green" [.fixed "  ✅ Page loaded successfully"] ++ timing
        result.duration, styled "bold green" [.fixed "\nResult: PASSED ✅"]]
    else
      [styled "red" [.fixed "  ❌ Page failed to load"] ++
        timing result.duration] ++
      errorLine result.error ++
      [styled "bold red" [.fixed "\nResult: FAILED ❌"]]) ++
    [[.fixed ""]])

/-- The bar around the summary of a batch. -/
def bar : String :=
  String.ofList (List.replicate 50 '=')

/-- The summary of a batch. -/
def batch (result : BatchResult) : List Part :=
  joinLines [
    [.fixed ""],
    [.fixed bar],
    [.fixed ("Total: " ++ intText result.totalPassed ++ "/" ++
      intText (result.totalPassed + result.totalFailed) ++ " passed across " ++
      toString result.results.length ++ " flows")],
    [.fixed bar],
    [.fixed ""]]

/-- What a console is sent for a report, unless a closing tag in it is stray. -/
def printed? (parts : List Part) : Except StrayTag String :=
  console? (render parts)

end PageFlow.Report
