import PageFlow.Value

/-!
# Steps

A step is one action on a page, with an optional limit in milliseconds for the
page to answer. An object of a flow file that describes no action is kept as a
malformed step with the reason.
-/

namespace PageFlow

open PageFlow.Decimal

inductive Action where
  | navigate (url : String)
  | click (selector : String)
  | type (selector text : String)
  | waitFor (selector : String)
  | screenshot (label : String)
  | verify (selector expected : String)
  | wait (ms : Binary64)
  | scroll (selector : String)
  | hover (selector : String)
  | select (selector value : String)
  | press (key : String)
  | evaluate (script : String)
  | malformed (reason : String)
  deriving DecidableEq, Repr, Inhabited

def Action.name : Action → String
  | .navigate _ => "navigate"
  | .click _ => "click"
  | .type .. => "type"
  | .waitFor _ => "waitFor"
  | .screenshot _ => "screenshot"
  | .verify .. => "verify"
  | .wait _ => "wait"
  | .scroll _ => "scroll"
  | .hover _ => "hover"
  | .select .. => "select"
  | .press _ => "press"
  | .evaluate _ => "evaluate"
  | .malformed _ => "malformed"

/-- Describes no action. -/
def Action.isMalformed : Action → Bool
  | .malformed _ => true
  | _ => false

/-- One step of a flow. `raw` holds the entries of the object that it was read
from. -/
structure Step where
  action : Action
  timeout : Option Nat
  raw : List (Value × Value)
  deriving Repr, Inhabited

namespace Step

def isMalformed (step : Step) : Bool :=
  step.action.isMalformed

/-- A malformed step; it has no limit of its own. -/
def ofReason (reason : String) (raw : List (Value × Value)) : Step :=
  ⟨.malformed reason, none, raw⟩

end Step

end PageFlow
