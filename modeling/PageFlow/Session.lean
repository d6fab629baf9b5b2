import PageFlow.Path

/-!
# Browser sessions

A session is one live page. It is launched, answers calls one at a time, and is
released. What a session does is left to a driver: a machine with a state of its
own that is told the time, and that answers or raises a fault and says how long
it took.
-/

namespace PageFlow

/-- What is asked of an element before it is used. -/
inductive ElementState where
  | visible
  | attached
  deriving DecidableEq, Repr, Inhabited

def ElementState.name : ElementState → String
  | .visible => "visible"
  | .attached => "attached"

/-- A call on the page. Time limits and delays are in milliseconds. -/
inductive Call where
  | goto (url : String) (timeout : Int)
  | waitFor (locator : String) (state : ElementState) (timeout : Int)
  | click (locator : String)
  | hover (locator : String)
  | clear (locator : String)
  | typeText (locator text : String) (delay : Int)
  | selectOption (locator value : String)
  | textContent (locator : String)
  | scrollIntoView (locator : String)
  | screenshot (path : Path)
  | pressKey (key : String)
  | evaluate (script : String)
  | title
  | content
  deriving DecidableEq, Repr, Inhabited

/-- What happens to sessions, in order. -/
inductive SessionEvent where
  | opened (headless : Bool)
  | called (call : Call)
  | closed
  deriving DecidableEq, Repr, Inhabited

/-- Why the program is asked to stop: somebody interrupted it, it is to end with
a last word, or anything else. -/
inductive StopCause where
  | interrupt
  | farewell
  | other
  deriving DecidableEq, Repr, Inhabited

/-- A fault that a session raises: the word for its kind and its text. One with
a cause to stop is a request to stop the program, and no failure of a step. -/
structure SessionFault where
  kind : String
  text : String
  stop : Option StopCause
  deriving DecidableEq, Repr, Inhabited

/-- A request to stop the program. -/
def SessionFault.exits (fault : SessionFault) : Bool :=
  fault.stop.isSome

/-- The answer of a driver, the nanoseconds that it took, and the driver's state
behind it. -/
structure Reply (σ α : Type) where
  answer : Except SessionFault α
  elapsed : Nat
  state : σ

/-- A driver of sessions with states in `σ`. Every call is answered by a text:
the content of an element or of the page, the image of a screenshot; other
answers do not matter. The integer is the time in nanoseconds. -/
structure Driver (σ : Type) where
  launch : Int → Bool → σ → Reply σ Unit
  perform : Int → Call → σ → Reply σ String
  release : Int → σ → Reply σ Unit

end PageFlow
