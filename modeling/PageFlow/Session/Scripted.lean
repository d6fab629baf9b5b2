import PageFlow.Session

/-!
# Scripted sessions

A driver that needs no browser. Its script gives the texts of elements, the time
that each call takes, and the calls that fail.
-/

namespace PageFlow

/-- The word for the kind of a call. -/
def Call.name : Call → String
  | .goto .. => "goto"
  | .waitFor .. => "wait_for"
  | .click _ => "click"
  | .hover _ => "hover"
  | .clear _ => "clear"
  | .typeText .. => "type_text"
  | .selectOption .. => "select_option"
  | .textContent _ => "text_content"
  | .scrollIntoView _ => "scroll_into_view"
  | .screenshot _ => "screenshot"
  | .pressKey _ => "press_key"
  | .evaluate _ => "evaluate"
  | .title => "title"
  | .content => "content"

def Call.subject? : Call → Option String
  | .goto url _ => some url
  | .waitFor locator .. => some locator
  | .click locator => some locator
  | .hover locator => some locator
  | .clear locator => some locator
  | .typeText locator .. => some locator
  | .selectOption locator _ => some locator
  | .textContent locator => some locator
  | .scrollIntoView locator => some locator
  | .screenshot path => some path.text
  | .pressKey key => some key
  | .evaluate script => some script
  | .title => none
  | .content => none

/-- A failure in a script: which calls it is for, and whether only one of those
fails. Calls are counted from one. -/
structure ScriptedFailure where
  method : String
  subject : Option String
  turn : Option Int
  fault : SessionFault
  deriving Repr, Inhabited

/-- What a scripted session does. Costs are in milliseconds. -/
structure Script where
  texts : List (String × String)
  title : String
  content : String
  costs : List (String × Nat)
  failures : List ScriptedFailure
  launchFault : Option SessionFault
  closeFault : Option SessionFault
  deriving Repr, Inhabited

namespace Script

def image : String := "png"

/-- The script without failures of an unnamed page. -/
def plain : Script where
  texts := []
  title := "Example Domain"
  content := String.ofList (List.replicate 120 'x')
  costs := []
  failures := []
  launchFault := none
  closeFault := none

def cost (script : Script) (method : String) : Nat :=
  ((script.costs.lookup method).getD 0) * 1000000

def isFor (failure : ScriptedFailure) (call : Call) : Bool :=
  failure.method == call.name &&
    match failure.subject with
    | none => true
    | some subject => call.subject? == some subject

/-- The first failure that strikes a call. Every failure comes with the number
of calls that it has met; those behind the striking one do not meet this
call. -/
def strike (call : Call) :
    List (ScriptedFailure × Nat) →
      Option SessionFault × List (ScriptedFailure × Nat)
  | [] => (none, [])
  | (failure, met) :: rest =>
    if isFor failure call then
      if failure.turn.isNone || failure.turn == some (met + 1 : Int) then
        (some failure.fault, (failure, met + 1) :: rest)
      else
        let (fault, rest) := strike call rest
        (fault, (failure, met + 1) :: rest)
    else
      let (fault, rest) := strike call rest
      (fault, (failure, met) :: rest)

def answer (script : Script) : Call → String
  | .textContent locator => (script.texts.lookup locator).getD ""
  | .title => script.title
  | .content => script.content
  | .screenshot _ => image
  | _ => ""

/-- The state of a session before its first call. -/
def start (script : Script) : List (ScriptedFailure × Nat) :=
  script.failures.map fun failure => (failure, 0)

/-- An answer, unless there is a fault. -/
def settled (fault : Option SessionFault) (answer : α) :
    Except SessionFault α :=
  match fault with
  | some fault => .error fault
  | none => .ok answer

def driver (script : Script) : Driver (List (ScriptedFailure × Nat)) where
  launch _ _ state := ⟨settled script.launchFault (), script.cost "open", state⟩
  perform _ call state :=
    let (fault, state) := strike call state
    ⟨settled fault (script.answer call), script.cost call.name, state⟩
  release _ state := ⟨settled script.closeFault (), script.cost "close", state⟩

end Script

end PageFlow
