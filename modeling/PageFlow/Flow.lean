import PageFlow.Step

/-!
# Flows

A flow is a named sequence of steps, with an address that relative targets are
put behind.
-/

namespace PageFlow

structure Flow where
  name : String
  baseUrl : Option String
  description : Option String
  steps : List Step
  deriving Repr, Inhabited

namespace Flow

/-- The malformed steps among some steps, with their numbers counted from
`next`. -/
def malformedFrom (next : Nat) : List Step → List (Nat × Step)
  | [] => []
  | step :: rest =>
    if step.isMalformed then (next, step) :: malformedFrom (next + 1) rest
    else malformedFrom (next + 1) rest

/-- The malformed steps of a flow, with their numbers counted from one. -/
def malformedSteps (flow : Flow) : List (Nat × Step) :=
  malformedFrom 1 flow.steps

end Flow

end PageFlow
