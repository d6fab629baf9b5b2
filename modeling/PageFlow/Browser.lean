import PageFlow.Json
import PageFlow.Session
import PageFlow.Settings

/-!
# Browsers

A browser is asked for operations one at a time. A session on a browser starts
it, launches it with the settings, opens one page, and answers calls by
operations on that page. When the session ends, or when its page cannot be
opened, the browser is closed and stopped on every way out.

Opening a page and closing it are the two halves of one iteration, which stands
still while the page is in use. So neither half can be left by a fault that says
an iteration has ended.
-/

namespace PageFlow

inductive PageOperation where
  | goto (url : String) (timeout : Int)
  | waitFor (locator : String) (state : ElementState) (timeout : Int)
  | click (locator : String)
  | hover (locator : String)
  | fill (locator text : String)
  | typeKeys (locator text : String) (delay : Int)
  | selectOption (locator value : String)
  | textContent (locator : String)
  | evaluateOn (locator script : String)
  | pause (ms : Nat)
  | screenshot (path : Path)
  | pressKey (key : String)
  | evaluate (script : String)
  | title
  | content
  deriving DecidableEq, Repr, Inhabited

inductive BrowserOperation where
  | start
  | launch (kind : BrowserKind) (headless : Bool) (slowMotion : Nat)
  | newContext (width height : Nat) (agent : Option String)
  | newPage
  | page (operation : PageOperation)
  | close
  | stop
  deriving DecidableEq, Repr, Inhabited

namespace BrowserOperation

/-- The launch that settings ask for. A caller may choose whether the browser is
shown. -/
def forLaunch (settings : Settings) (headless : Option Bool) :
    BrowserOperation :=
  .launch settings.browser (headless.getD settings.headless) settings.slowMotion

/-- The context that settings ask for. An empty agent is left out. -/
def forContext (settings : Settings) : BrowserOperation :=
  .newContext settings.viewportWidth settings.viewportHeight
    (settings.userAgent.filter (!·.isEmpty))

end BrowserOperation

/-- A fault as it leaves the opening or the closing of a page. The end of an
iteration leaves as a fault of another kind. -/
def SessionFault.outward (fault : SessionFault) : SessionFault :=
  if fault.kind = "StopIteration" then
    ⟨"RuntimeError", "generator raised StopIteration", none⟩
  else fault

/-- A browser with states in `τ`. -/
structure Browser (τ : Type) where
  perform : BrowserOperation → τ → Reply τ Json

/-- What a visit to a browser has come to: the state of the browser, the
operations so far and the nanoseconds that they took. -/
structure Visited (τ : Type) where
  state : τ
  operations : List BrowserOperation
  elapsed : Nat
  deriving Inhabited

/-- A visit to a browser. -/
abbrev Visit (τ α : Type) := ExceptT SessionFault (StateM (Visited τ)) α

namespace Visit

variable {τ α : Type}

def perform (browser : Browser τ) (operation : BrowserOperation) :
    Visit τ Json :=
  fun visited =>
  let reply := browser.perform operation visited.state
  (reply.answer, ⟨reply.state, visited.operations ++ [operation],
    visited.elapsed + reply.elapsed⟩)

/-- Does a second part whatever came of the first one. A fault of the second
part is raised instead of one of the first. -/
def ensuring (first : Visit τ α) (second : Visit τ Unit) : Visit τ α :=
  fun visited =>
  match first visited with
  | (result, between) =>
    match second between with
    | (.ok (), after) => (result, after)
    | (.error fault, after) => (.error fault, after)

/-- Does a second part only when the first one fails. -/
def onFault (first : Visit τ α) (second : Visit τ Unit) : Visit τ α :=
  fun visited =>
  match first visited with
  | (.ok value, after) => (.ok value, after)
  | (.error fault, between) =>
    match second between with
    | (.ok (), after) => (.error fault, after)
    | (.error later, after) => (.error later, after)

/-- Asks for an operation whose answer does not matter. -/
def order (browser : Browser τ) (operation : BrowserOperation) :
    Visit τ Unit := do
  let _ ← perform browser operation
  return

/-- Does a part whose faults go outward. -/
def leaving (part : Visit τ α) : Visit τ α := fun visited =>
  match part visited with
  | (result, after) => (result.mapError SessionFault.outward, after)

/-! ## Pages -/

/-- Opens a page on a browser that was launched; without a page the browser is
closed. -/
def openOn (browser : Browser τ) (settings : Settings) : Visit τ Unit :=
  onFault (do order browser (.forContext settings); order browser .newPage)
    (order browser .close)

def openPage (browser : Browser τ) (settings : Settings)
    (headless : Option Bool) : Visit τ Unit :=
  leaving do
    order browser .start
    onFault
      (do order browser (.forLaunch settings headless); openOn browser settings)
      (order browser .stop)

/-- Closes the browser and stops it. -/
def closePage (browser : Browser τ) : Visit τ Unit :=
  leaving (ensuring (order browser .close) (order browser .stop))

/-- Visits a page: opens it, does what is to be done on it, and closes the
browser. -/
def withPage (browser : Browser τ) (settings : Settings)
    (headless : Option Bool) (body : Visit τ α) : Visit τ α := do
  openPage browser settings headless
  ensuring body (closePage browser)

/-- The script that brings an element into view. -/
def scrollScript : String :=
  "el => el.scrollIntoView(\x7bbehavior: 'smooth', block: 'center'\x7d)"

/-- An answer that says nothing: missing, false, zero or empty. -/
def isVoid : Json → Bool
  | .null | .bool false | .int 0 | .text "" | .array [] | .object [] => true
  | .float (.finite _ 0) => true
  | _ => false

/-- The answer of a page, or the empty text in place of one that says
nothing. -/
def textOf (answer : Json) : Json :=
  if isVoid answer then .text "" else answer

/-- Answers a call by operations on the page. -/
def call (browser : Browser τ) (settings : Settings) (call : Call) :
    Visit τ Json :=
  let ask (operation : PageOperation) : Visit τ Json :=
    perform browser (.page operation)
  let tell (operation : PageOperation) : Visit τ Json := do
    let _ ← ask operation
    return .null
  match call with
  | .goto url timeout => tell (.goto url timeout)
  | .waitFor locator state timeout => tell (.waitFor locator state timeout)
  | .click locator => tell (.click locator)
  | .hover locator => tell (.hover locator)
  | .clear locator => tell (.fill locator "")
  | .typeText locator text delay => tell (.typeKeys locator text delay)
  | .selectOption locator value => tell (.selectOption locator value)
  | .textContent locator => do
    let answer ← ask (.textContent locator)
    return textOf answer
  | .scrollIntoView locator => do
    let _ ← ask (.evaluateOn locator scrollScript)
    if settings.scrollSettle = 0 then return .null
      else tell (.pause settings.scrollSettle)
  | .screenshot path => tell (.screenshot path)
  | .pressKey key => tell (.pressKey key)
  | .evaluate script => ask (.evaluate script)
  | .title => do
    let answer ← ask .title
    return textOf answer
  | .content => ask .content

end Visit

namespace Browser

variable {τ : Type}

/-- The reply of a session for a visit that begins in a state. -/
def replyOf (visit : Visit τ α) (use : α → β) (state : τ) : Reply τ β :=
  match visit ⟨state, [], 0⟩ with
  | (result, visited) => ⟨result.map use, visited.elapsed, visited.state⟩

def answerText : Json → String
  | .text s => s
  | _ => ""

def driver (browser : Browser τ) (settings : Settings) : Driver τ where
  launch _ headless state :=
    replyOf (Visit.openPage browser settings (some headless))
      (fun _ => ()) state
  perform _ call state :=
    replyOf (Visit.call browser settings call) answerText state
  release _ state := replyOf (Visit.closePage browser) (fun _ => ()) state

end Browser

end PageFlow
