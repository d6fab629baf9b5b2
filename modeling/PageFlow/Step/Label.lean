import PageFlow.Decimal.Layout
import PageFlow.Step

/-!
# Labels of steps

The short text by which progress lines and reports name a step.
-/

namespace PageFlow

open PageFlow.Decimal

/-- A duration in milliseconds; a whole number is written with all its
digits. -/
def Decimal.Binary64.plainText (x : Binary64) : String :=
  match x.toInt? with
  | some n => intText n
  | none => x.text

def Action.label : Action → String
  | .navigate url => "goto " ++ url
  | .click selector => "click \"" ++ selector ++ "\""
  | .type selector _ => "type " ++ selector
  | .waitFor selector => "waitFor " ++ selector
  | .screenshot label => "screenshot \"" ++ label ++ "\""
  | .verify selector expected =>
      "verify " ++ selector ++ " contains \"" ++ expected ++ "\""
  | .wait ms => "wait " ++ ms.plainText ++ "ms"
  | .scroll selector => "scroll " ++ selector
  | .hover selector => "hover " ++ selector
  | .select selector _ => "select " ++ selector
  | .press key => "press " ++ key
  | .evaluate _ => "evaluate (custom JS)"
  | .malformed _ => "unknown action"

def Step.label (step : Step) : String :=
  step.action.label

end PageFlow
