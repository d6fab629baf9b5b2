import PageFlow.Browser

/-!
# Scripted browsers

The names under which operations are known, and a browser that answers by name
from a script.
-/

namespace PageFlow

namespace PageOperation

/-- The name of an operation on the first element that a locator finds. -/
def onFirst (locator name : String) : String :=
  "locator(" ++ locator ++ ").first." ++ name

def name : PageOperation → String
  | .goto .. => "page.goto"
  | .waitFor locator .. => onFirst locator "wait_for"
  | .click locator => onFirst locator "click"
  | .hover locator => onFirst locator "hover"
  | .fill locator _ => onFirst locator "fill"
  | .typeKeys locator .. => onFirst locator "press_sequentially"
  | .selectOption locator _ => onFirst locator "select_option"
  | .textContent locator => onFirst locator "text_content"
  | .evaluateOn locator _ => onFirst locator "evaluate"
  | .pause _ => "page.wait_for_timeout"
  | .screenshot _ => "page.screenshot"
  | .pressKey _ => "page.keyboard.press"
  | .evaluate _ => "page.evaluate"
  | .title => "page.title"
  | .content => "page.content"

def arguments : PageOperation → List Json
  | .goto url _ => [.text url]
  | .fill _ text => [.text text]
  | .typeKeys _ text _ => [.text text]
  | .evaluateOn _ script => [.text script]
  | .pause ms => [.int ms]
  | .pressKey key => [.text key]
  | .evaluate script => [.text script]
  | _ => []

def options : PageOperation → List (String × Json)
  | .goto _ timeout =>
      [("wait_until", .text "networkidle"), ("timeout", .int timeout)]
  | .waitFor _ state timeout =>
      [("state", .text state.name), ("timeout", .int timeout)]
  | .typeKeys _ _ delay => [("delay", .int delay)]
  | .selectOption _ value => [("value", .text value)]
  | .screenshot path => [("path", .text path.text), ("full_page", .bool false)]
  | _ => []

end PageOperation

namespace BrowserOperation

def name : BrowserOperation → String
  | .start => "start"
  | .launch kind .. => kind.name ++ ".launch"
  | .newContext .. => "browser.new_context"
  | .newPage => "context.new_page"
  | .page operation => operation.name
  | .close => "browser.close"
  | .stop => "stop"

def arguments : BrowserOperation → List Json
  | .page operation => operation.arguments
  | _ => []

def options : BrowserOperation → List (String × Json)
  | .launch _ headless slowMotion =>
      [("headless", .bool headless), ("slow_mo", .int slowMotion)]
  | .newContext width height agent =>
    ("viewport", .object [("width", .int width), ("height", .int height)]) ::
      (agent.map fun agent => ("user_agent", .text agent)).toList
  | .page operation => operation.options
  | _ => []

end BrowserOperation

/-- What a scripted browser answers, and which operations fail, both by name. -/
structure BrowserScript where
  answers : List (String × Json)
  failures : List (String × SessionFault)
  deriving Repr, Inhabited

namespace BrowserScript

/-- The browser of a script. It takes no time and keeps its state. -/
def browser (script : BrowserScript) : Browser τ where
  perform operation state :=
    match script.failures.lookup operation.name with
    | some fault => ⟨.error fault, 0, state⟩
    | none =>
        ⟨.ok ((script.answers.lookup operation.name).getD .null), 0, state⟩

end BrowserScript

end PageFlow
